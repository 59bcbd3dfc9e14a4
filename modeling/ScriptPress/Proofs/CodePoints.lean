/-
Texts as code points.

The automaton on a list takes codes of any size, so it can be run on the code
points of a text as well as on bytes.  `minifyCodes` is what such a run gives.  On
the bytes of a script that is what minifying it gives.  And as UTF-8 spells code
points by bytes, minifying a text through its bytes in UTF-8 is minifying its code
points: no character is cut, and what is written is always a text
(`minifyText_utf8`).
-/
import ScriptPress.Proofs.Spelling

namespace ScriptPress

open Code

namespace Script

/-! ## Codes of any size -/

/-- Minify the characters with these codes, by a run of the automaton on their list. -/
def minifyCodes (codes : List Nat) : Except Construct (List Nat) :=
  match Plain.run newline (codes.map effective) with
  | .ok _ p => .ok p.text
  | .error what _ => .error what

theorem minifyCodes_eq (codes : List Nat) :
    minifyCodes codes =
      match split {} (codes.map effective) with
      | (items, none) => .ok (join {} items)
      | (_, some what) => .error what := by
  obtain ⟨p, ran, finished⟩ := run_finishes (codes.map effective)
  unfold minifyCodes
  rw [ran]
  cases passed : split {} (codes.map effective) with
  | mk items fault =>
  rw [passed] at finished
  cases fault with
  | none => exact congrArg Except.ok (finished.text rfl)
  | some what => rfl

theorem characters_eq_map (script : Bytes) :
    characters script = (script.map UInt8.toNat).map effective := by
  rw [List.map_map]
  rfl

/-- Minifying a script is minifying its bytes as codes. -/
theorem minify_eq_minifyCodes (script : Bytes) :
    minify script =
      match minifyCodes (script.map UInt8.toNat) with
      | .ok codes => .ok (Plain.bytes codes)
      | .error what => .error (.unterminated what script.length) := by
  rw [minifyCodes_eq, ← characters_eq_map]
  cases passed : split {} (characters script) with
  | mk items fault =>
  cases fault with
  | none => exact minify_of_closed passed
  | some what => exact minify_of_unclosed passed

/-- Only codes of the text, spaces and line ends are written. -/
theorem mem_minifyCodes (good : Nat → Prop) {codes out : List Nat}
    (h : minifyCodes codes = .ok out) (space_good : good space) (line_good : good newline)
    (codes_good : ∀ c ∈ codes, good c) : ∀ c ∈ out, good c := by
  have effective_good : ∀ c ∈ codes.map effective, good c := by
    intro c hc
    obtain ⟨raw, member, rfl⟩ := List.mem_map.mp hc
    unfold effective
    split
    · exact codes_good raw member
    · split
      · exact line_good
      · exact space_good
  have all : (Plain.Ending.state (Plain.run newline (codes.map effective))).All good :=
    Plain.State.All.run space_good line_good effective_good
  unfold minifyCodes at h
  split at h
  next p ran =>
    cases h
    rw [ran] at all
    intro c hc
    obtain ⟨entry, written, rfl⟩ := List.mem_map.mp hc
    exact all.written entry written
  · cases h

end Script

/-! ## UTF-8 as a spelling -/

namespace Utf8

theorem encodeChar_of_ascii {c : Char} (ascii : c.toNat < 128) :
    (String.utf8EncodeChar c).map UInt8.toNat = [c.toNat] := by
  have small : c.toNat ≤ 127 := Nat.le_of_lt_succ ascii
  simp only [String.utf8EncodeChar, Char.toNat_val, if_pos small, List.map_singleton,
    UInt8.toNat_ofNat']
  rw [Nat.mod_eq_of_lt (by omega)]

theorem encodeChar_of_high {c : Char} (high : 128 ≤ c.toNat) :
    ∀ d ∈ (String.utf8EncodeChar c).map UInt8.toNat, 128 ≤ d := by
  have large : ¬ c.toNat ≤ 127 := by omega
  simp only [String.utf8EncodeChar, Char.toNat_val, if_neg large]
  intro d hd
  repeat' split at hd
  all_goals
    simp only [List.map_cons, List.map_nil, UInt8.toNat_ofNat', List.mem_cons, List.not_mem_nil,
      or_false] at hd
    omega

theorem encodeChar_ne_nil (c : Char) : (String.utf8EncodeChar c).map UInt8.toNat ≠ [] := by
  intro empty
  have size := congrArg List.length empty
  rw [List.length_map, String.length_utf8EncodeChar] at size
  exact absurd size (Nat.ne_of_gt c.utf8Size_pos)

end Utf8

/-- Characters spelled by their bytes in UTF-8.  What is no code point stays as it is. -/
def Spelling.utf8 : Spelling where
  spell c :=
    if (Char.ofNat c).toNat = c then (String.utf8EncodeChar (Char.ofNat c)).map UInt8.toNat
    else [c]
  spell_ascii c ascii := by
    have valid : ∀ c < 128, (Char.ofNat c).toNat = c := by decide
    rw [if_pos (valid c ascii), Utf8.encodeChar_of_ascii (by rwa [valid c ascii]), valid c ascii]
  spell_ne_nil c := by
    split
    · exact Utf8.encodeChar_ne_nil _
    · simp
  spell_high c high := by
    split
    next valid => exact Utf8.encodeChar_of_high (by rwa [valid])
    · simpa using high

namespace Spelling

theorem utf8_spell (c : Char) :
    utf8.spell c.toNat = (String.utf8EncodeChar c).map UInt8.toNat := by
  simp only [utf8, Char.ofNat_toNat, if_true]

/-- The bytes of a character count as what spells the character it counts as. -/
theorem utf8_spell_effective (c : Char) :
    utf8.spell (effective c.toNat) =
      (String.utf8EncodeChar c).map fun byte => effective byte.toNat := by
  rw [show (fun byte : UInt8 => effective byte.toNat) = effective ∘ UInt8.toNat from rfl,
    ← List.map_map]
  rcases Nat.lt_or_ge c.toNat 128 with ascii | high
  · have small : effective c.toNat < 128 := by
      unfold effective
      repeat' split
      · exact ascii
      · decide
      · decide
    rw [Utf8.encodeChar_of_ascii ascii, utf8.spell_ascii _ small]
    rfl
  · have visible {d : Nat} (above : 128 ≤ d) : effective d = d :=
      effective_of_visible (.inl (Nat.le_trans (by decide) above))
    rw [visible high, utf8_spell]
    refine ((List.map_congr_left fun d hd => ?_).trans (List.map_id _)).symm
    exact visible (Utf8.encodeChar_of_high high d hd)

theorem characters_utf8 (text : List Char) :
    Script.characters (text.flatMap String.utf8EncodeChar) =
      utf8.text ((text.map Char.toNat).map effective) := by
  rw [Script.characters, List.map_flatMap, Spelling.text, List.flatMap_map, List.flatMap_map]
  simp only [utf8_spell_effective]

theorem bytes_utf8 (text : List Char) :
    Plain.bytes (utf8.text (text.map Char.toNat)) = text.flatMap String.utf8EncodeChar := by
  have bytes (c : Char) : Plain.bytes (utf8.spell c.toNat) = String.utf8EncodeChar c := by
    rw [utf8_spell, Plain.bytes, List.map_map]
    exact (List.map_congr_left fun _ _ => UInt8.ofNat_toNat).trans (List.map_id _)
  induction text with
  | nil => rfl
  | cons c rest ih =>
    rw [List.map_cons, text_cons, Plain.bytes_append, bytes, ih, List.flatMap_cons]

end Spelling

/-! ## Texts -/

namespace Script

def codePoints (text : String) : List Nat := text.toList.map Char.toNat

theorem length_utf8 (text : String) :
    (text.toList.flatMap String.utf8EncodeChar).length = text.utf8ByteSize := by
  have bytes : text.toByteArray = text.toList.utf8Encode := by
    rw [← String.toByteArray_ofList, String.ofList_toList]
  rw [String.utf8ByteSize, bytes, List.utf8Encode, List.size_toByteArray]

/-- What is written for the code points of a text are those of a text. -/
theorem exists_text_of_minifyCodes {text : List Char} {codes : List Nat}
    (h : minifyCodes (text.map Char.toNat) = .ok codes) :
    ∃ out : List Char, codes = out.map Char.toNat := by
  have valid : ∀ c ∈ codes, (Char.ofNat c).toNat = c := by
    refine mem_minifyCodes (fun c => (Char.ofNat c).toNat = c) h (by decide) (by decide) ?_
    intro c hc
    obtain ⟨d, _, rfl⟩ := List.mem_map.mp hc
    rw [Char.ofNat_toNat]
  refine ⟨codes.map Char.ofNat, ?_⟩
  rw [List.map_map]
  exact ((List.map_congr_left valid).trans (List.map_id codes)).symm

/-- Minifying the bytes of a text gives the bytes of what its code points give. -/
theorem minify_utf8 (text : List Char) :
    minify (text.flatMap String.utf8EncodeChar) =
      match minifyCodes (text.map Char.toNat) with
      | .ok codes => .ok (Plain.bytes (Spelling.utf8.text codes))
      | .error what =>
        .error (.unterminated what (text.flatMap String.utf8EncodeChar).length) := by
  have alike : Context.Alike {} {} := ⟨rfl, rfl, rfl⟩
  have spelled := Spelling.utf8.split_text alike ((text.map Char.toNat).map effective)
  have joined := Spelling.utf8.join_items alike ((text.map Char.toNat).map effective)
  rw [← Spelling.characters_utf8] at spelled
  rw [minifyCodes_eq]
  cases passed : split {} ((text.map Char.toNat).map effective) with
  | mk items fault =>
  rw [passed] at spelled joined
  cases fault with
  | none =>
    rw [minify_of_closed spelled]
    show Except.ok (Plain.bytes (join {} (items.flatMap Spelling.utf8.item))) = _
    rw [joined]
  | some what => exact minify_of_unclosed spelled

theorem decode_utf8 (text : List Char) :
    Encoding.utf8.decode? (text.flatMap String.utf8EncodeChar) = some text :=
  Encoding.decode?_encode?_utf8 text

theorem minifyEncoded_of_ok {text out : List Char}
    (h : minify (text.flatMap String.utf8EncodeChar) = .ok (out.flatMap String.utf8EncodeChar)) :
    minifyEncoded .utf8 text = .ok out := by
  simp only [minifyEncoded, Encoding.encode?, h, decode_utf8]
  rfl

theorem minifyEncoded_of_error {text : List Char} {halt : Halt}
    (h : minify (text.flatMap String.utf8EncodeChar) = .error halt) :
    minifyEncoded .utf8 text = .error (.halted halt) := by
  simp only [minifyEncoded, Encoding.encode?, h]
  rfl

/-- The shortcut for an empty text makes no difference. -/
theorem minifyText_eq_minifyEncoded (text : String) :
    minifyText text "utf-8" = (minifyEncoded .utf8 text.toList).map String.ofList := by
  unfold minifyText
  split
  next empty =>
    rw [String.isEmpty_iff.mp empty]
    rfl
  · rfl

/-- A text minified through UTF-8 never gives bytes that are no text.  It gives the
text whose code points are what the automaton makes of the code points of the text,
or is rejected for what the automaton rejects these for.  The automaton is the one
that minifies scripts, which are texts of bytes, and all codes above the tilde are
word characters to it. -/
theorem minifyText_utf8 (text : String) :
    minifyText text "utf-8" ≠ .error .undecodable ∧
      (match minifyCodes (codePoints text) with
      | .ok codes => ∃ out, minifyText text "utf-8" = .ok out ∧ codePoints out = codes
      | .error what =>
        minifyText text "utf-8" = .error (.halted (.unterminated what text.utf8ByteSize))) ∧
      (∀ script : Bytes, minify script =
        match minifyCodes (script.map UInt8.toNat) with
        | .ok codes => .ok (Plain.bytes codes)
        | .error what => .error (.unterminated what script.length)) ∧
      ∀ code > 126, isWord code = true := by
  have encoded := minify_utf8 text.toList
  have word (code : Nat) (above : code > 126) : isWord code = true := isWord_of_above above
  rw [minifyText_eq_minifyEncoded]
  cases minified : minifyCodes (codePoints text) with
  | error what =>
    rw [show text.toList.map Char.toNat = codePoints text from rfl, minified, length_utf8] at encoded
    rw [minifyEncoded_of_error encoded]
    exact ⟨nofun, rfl, minify_eq_minifyCodes, word⟩
  | ok codes =>
    obtain ⟨out, rfl⟩ := exists_text_of_minifyCodes minified
    rw [show text.toList.map Char.toNat = codePoints text from rfl, minified] at encoded
    rw [minifyEncoded_of_ok (encoded.trans (congrArg Except.ok (Spelling.bytes_utf8 out)))]
    refine ⟨nofun, ⟨String.ofList out, rfl, ?_⟩, minify_eq_minifyCodes, word⟩
    rw [codePoints, String.toList_ofList]

end Script
end ScriptPress
