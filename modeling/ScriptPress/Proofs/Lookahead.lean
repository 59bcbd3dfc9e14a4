/-
A source as a text with a cursor.

Whatever the pieces a stream returns, fetches and peeks in any order answer as they
would on the list of the effective characters of all the pieces before the first
empty one: a fetch takes the next of them, a peek only looks at it.  The position
is ahead of the fetches by a character that has been looked at, and a stream that
has answered a read with nothing is left alone.
-/
import ScriptPress.Proofs.Streams

namespace ScriptPress

open Code

namespace Stream

/-- A read returns the next piece, and nothing when there is none. -/
theorem Supply.serve_pieces (pieces : List Bytes) (n : Nat) (count : Int) :
    (Supply.pieces (pieces.drop n)).serve count =
      (pieces.getD n [], .pieces (pieces.drop (n + 1))) := by
  rw [List.getD_eq_getElem?_getD]
  by_cases more : n < pieces.length
  · rw [List.drop_eq_getElem_cons more, serve, List.getElem?_eq_getElem more, Option.getD_some]
  · have used : pieces.length ≤ n := Nat.le_of_not_lt more
    rw [List.drop_eq_nil_of_le used, List.drop_eq_nil_of_le (Nat.le_succ_of_le used), serve,
      List.getElem?_eq_none used, Option.getD_none]

theorem Input.read_eq_ok {count : Int} {input input' : Input} {piece : Bytes}
    (h : input.read count = .ok piece input') :
    piece = (input.supply.serve count).1 ∧
      input' = { input with
        reads := input.reads + 1, supply := (input.supply.serve count).2 } := by
  simp only [read] at h
  split at h
  · cases h
  · cases h
    exact ⟨rfl, rfl⟩

end Stream

namespace Source

/-- A new source on a stream that returns these pieces. -/
def ofPieces (pieces : List Bytes) (chunkSize : Int) : Source :=
  { input := { supply := .pieces pieces }, chunkSize }

theorem reads_ofPieces (pieces : List Bytes) (chunkSize : Int) {script : Bytes}
    (before : (pieces.takeWhile fun piece => !piece.isEmpty).flatten = script) :
    (ofPieces pieces chunkSize).Reads script.length
      (script.map fun byte => effective byte.toNat) := by
  subst before
  exact reads_fresh { supply := .pieces pieces } chunkSize rfl

/-! ## Calls -/

/-- What can be asked of a source. -/
inductive Call where
  | fetch
  | peek
  deriving DecidableEq, Repr

namespace Call

def run : Call → Action Source Symbol
  | fetch => Source.fetch
  | peek => Source.peek

/-- What a call leaves of a text. -/
def rest (text : List Nat) : Call → List Nat
  | fetch => text.tail
  | peek => text

/-- The symbol looked at, after a call that has left `text`. -/
def held (text : List Nat) : Call → Option Symbol
  | fetch => none
  | peek => some text.head?

/-- The answers to calls made on a text. -/
def answers (text : List Nat) : List Call → List Symbol
  | [] => []
  | call :: calls => text.head? :: answers (call.rest text) calls

theorem length_answers (text : List Nat) (calls : List Call) :
    (answers text calls).length = calls.length := by
  induction calls generalizing text with
  | nil => rfl
  | cons call calls ih => rw [answers, List.length_cons, ih, List.length_cons]

theorem drop_rest (text : List Nat) (call : Call) (calls : List Call) :
    (call.rest text).drop (calls.count fetch) = text.drop ((call :: calls).count fetch) := by
  cases call with
  | fetch => rw [rest, List.count_cons_self, List.drop_tail]
  | peek => rw [rest, List.count_cons_of_ne (by decide)]

/-- A call is answered with the character that follows those fetched before it. -/
theorem getElem?_answers (text : List Nat) {calls : List Call} {i : Nat} (h : i < calls.length) :
    (answers text calls)[i]? = some text[(calls.take i).count fetch]? := by
  induction calls generalizing text i with
  | nil => cases h
  | cons call calls ih =>
    cases i with
    | zero => simp [answers, List.head?_eq_getElem?]
    | succ i =>
      have later : i < calls.length := Nat.lt_of_succ_lt_succ h
      rw [answers, List.getElem?_cons_succ, ih (call.rest text) later, List.take_succ_cons]
      congr 1
      rw [← List.head?_drop, ← List.head?_drop, drop_rest]

end Call

/-! ## One call -/

theorem lookahead_fetch {s s' : Source} {c : Symbol} (h : s.fetch = .ok c s') :
    s'.lookahead = none := by
  unfold fetch at h
  split at h
  · cases h
    rfl
  next clear =>
    split at h
    · cases h
    next byte s₁ pulled =>
      cases h
      cases byte with
      | none => exact (remaining_pull_none pulled clear).2
      | some b => exact (remaining_pull_some pulled clear).2

theorem lookahead_peek {s s' : Source} {c : Symbol} (h : s.peek = .ok c s') :
    s'.lookahead = some c := by
  unfold peek at h
  split at h
  next held =>
    cases h
    exact held
  · split at h
    · cases h
    · cases h
      rfl

/-- A call on a source is the call on the text it reads. -/
theorem Reads.run {s : Source} {total : Nat} {text : List Nat} (h : s.Reads total text)
    (call : Call) :
    ∃ s', call.run s = .ok text.head? s' ∧ s'.Reads total (call.rest text) ∧
      s'.lookahead = call.held (call.rest text) := by
  cases call with
  | fetch =>
    obtain ⟨s', fetched, reads⟩ := h.fetch
    exact ⟨s', fetched, reads, lookahead_fetch fetched⟩
  | peek =>
    obtain ⟨s', peeked, reads⟩ := h.peek
    exact ⟨s', peeked, reads, lookahead_peek peeked⟩

/-! ## Reads of the stream -/

/-- The reads made so far have returned the first of the pieces, and none of them was
empty, but for the last if the source takes its stream for exhausted. -/
structure Draws (s : Source) (pieces : List Bytes) : Prop where
  supply_eq : s.input.supply = .pieces (pieces.drop s.input.reads)
  filled : ∀ k < s.input.reads, (s.exhausted → k + 1 < s.input.reads) → pieces.getD k [] ≠ []

namespace Draws

variable {s s' : Source} {pieces : List Bytes}

theorem pull {byte : Option UInt8} (h : s.Draws pieces) (pulled : s.pull = .ok byte s') :
    s'.Draws pieces := by
  unfold Source.pull at pulled
  split at pulled
  · cases pulled
    exact ⟨h.supply_eq, h.filled⟩
  · split at pulled
    · cases pulled
      exact h
    next live =>
      -- No read before this one was empty, or there would be no read now.
      have before (k : Nat) (earlier : k < s.input.reads) : pieces.getD k [] ≠ [] :=
        h.filled k earlier fun dry => absurd dry live
      split at pulled
      · cases pulled
      next read =>
        obtain ⟨-, rfl⟩ := Stream.Input.read_eq_ok read
        cases pulled
        refine ⟨?_, fun k made last => before k ?_⟩
        · show (s.input.supply.serve s.chunkSize).2 = _
          rw [h.supply_eq, Stream.Supply.serve_pieces]
        · have last : k + 1 < s.input.reads + 1 := last rfl
          omega
      next byte rest input read =>
        obtain ⟨piece, rfl⟩ := Stream.Input.read_eq_ok read
        rw [h.supply_eq, Stream.Supply.serve_pieces] at piece
        have piece : byte :: rest = pieces.getD s.input.reads [] := piece
        cases pulled
        refine ⟨?_, fun k made _ => ?_⟩
        · show (s.input.supply.serve s.chunkSize).2 = _
          rw [h.supply_eq, Stream.Supply.serve_pieces]
        · have made : k < s.input.reads + 1 := made
          rcases Nat.lt_succ_iff_lt_or_eq.mp made with earlier | rfl
          · exact before k earlier
          · rw [← piece]
            exact List.cons_ne_nil byte rest

theorem fetch {c : Symbol} (h : s.Draws pieces) (fetched : s.fetch = .ok c s') :
    s'.Draws pieces := by
  unfold Source.fetch at fetched
  split at fetched
  · cases fetched
    exact ⟨h.supply_eq, h.filled⟩
  · split at fetched
    · cases fetched
    next pulled =>
      cases fetched
      exact h.pull pulled

theorem peek {c : Symbol} (h : s.Draws pieces) (peeked : s.peek = .ok c s') :
    s'.Draws pieces := by
  unfold Source.peek at peeked
  split at peeked
  · cases peeked
    exact h
  · split at peeked
    · cases peeked
    next fetched =>
      cases peeked
      have drawn := h.fetch fetched
      exact ⟨drawn.supply_eq, drawn.filled⟩

theorem run {c : Symbol} (h : s.Draws pieces) {call : Call} (called : call.run s = .ok c s') :
    s'.Draws pieces := by
  cases call with
  | fetch => exact h.fetch called
  | peek => exact h.peek called

/-- Only the last of the reads made can have been empty. -/
theorem getD_ne_nil (h : s.Draws pieces) {k : Nat} (followed : k + 1 < s.input.reads) :
    pieces.getD k [] ≠ [] :=
  h.filled k (Nat.lt_of_succ_lt followed) fun _ => followed

end Draws

/-! ## Calls in a row -/

/-- What a source holds back is decided by the last call. -/
def heldAfter (s : Source) (text : List Nat) (calls : List Call) : Option Symbol :=
  match calls.getLast? with
  | none => s.lookahead
  | some call => call.held (text.drop (calls.count .fetch))

theorem heldAfter_cons {s s' : Source} {text : List Nat} {call : Call}
    (h : s'.lookahead = call.held (call.rest text)) (calls : List Call) :
    s'.heldAfter (call.rest text) calls = s.heldAfter text (call :: calls) := by
  unfold heldAfter
  rw [List.getLast?_cons]
  cases last : calls.getLast? with
  | none =>
    obtain rfl := List.getLast?_eq_none_iff.mp last
    rw [h, Option.getD_none, ← Call.drop_rest]
    rfl
  | some call' => rw [Option.getD_some, ← Call.drop_rest]

theorem run_calls {s : Source} {total : Nat} {text : List Nat} {pieces : List Bytes}
    (reads : s.Reads total text) (draws : s.Draws pieces) (calls : List Call) :
    ∃ s', calls.mapM Call.run s = .ok (Call.answers text calls) s' ∧
      s'.Reads total (text.drop (calls.count .fetch)) ∧ s'.Draws pieces ∧
      s'.lookahead = s.heldAfter text calls := by
  induction calls generalizing s text with
  | nil => exact ⟨s, rfl, reads, draws, rfl⟩
  | cons call calls ih =>
    obtain ⟨s₁, called, reads₁, held⟩ := reads.run call
    obtain ⟨s', ran, reads', draws', held'⟩ := ih reads₁ (draws.run called)
    refine ⟨s', ?_, ?_, draws', ?_⟩
    · rw [List.mapM_cons]
      refine Action.bind_eq_ok.mpr ⟨text.head?, s₁, called, ?_⟩
      exact Action.bind_eq_ok.mpr ⟨_, s', ran, rfl⟩
    · rw [← Call.drop_rest]
      exact reads'
    · rw [held', heldAfter_cons held]

/-- How far the position is ahead of what has been fetched. -/
theorem position_of_held {s : Source} {text : List Nat} {k : Nat}
    (reads : s.Reads text.length (text.drop k)) :
    s.position = min k text.length + s.lookahead.join.toList.length := by
  have parts := congrArg List.length reads.text_eq
  have counted := reads.position_eq
  rw [List.length_append, List.length_drop] at parts
  omega

theorem length_heldAfter (pieces : List Bytes) (chunkSize : Int) (text : List Nat)
    (calls : List Call) :
    (heldAfter (ofPieces pieces chunkSize) text calls).join.toList.length =
      if calls.getLast? = some .peek ∧ calls.count .fetch < text.length then 1 else 0 := by
  unfold heldAfter
  cases last : calls.getLast? with
  | none => rfl
  | some call =>
    cases call with
    | fetch => rfl
    | peek =>
      show (text.drop (calls.count .fetch)).head?.toList.length = _
      rw [List.head?_drop]
      by_cases more : calls.count .fetch < text.length
      · rw [List.getElem?_eq_getElem more, if_pos ⟨rfl, more⟩]
        rfl
      · rw [List.getElem?_eq_none (Nat.le_of_not_lt more), if_neg fun h => more h.2]
        rfl

/-- Calls between which nothing is fetched have as many fetches before them. -/
theorem Call.count_take_of_peeks {calls : List Call} {i j : Nat} (ordered : i ≤ j)
    (peeks : ∀ m, i ≤ m → m < j → calls[m]? = some .peek) :
    (calls.take j).count .fetch = (calls.take i).count .fetch := by
  induction j with
  | zero => rw [Nat.le_zero.mp ordered]
  | succ j ih =>
    rcases Nat.lt_or_eq_of_le ordered with earlier | rfl
    · have within : i ≤ j := Nat.le_of_lt_succ earlier
      rw [List.take_add_one, peeks j within (Nat.lt_succ_self j), List.count_append,
        ih within fun m from_i to_j => peeks m from_i (Nat.lt_succ_of_lt to_j)]
      rfl
    · rfl

/-- Fetches and peeks in any order, on a stream that returns these pieces, see the
bytes before the first empty piece as effective characters.  A call is answered with
the character after those fetched before it, so that a peek is answered as the next
fetch is; a character that is held back counts as itself, and it makes no difference
whether it is replaced by what it counts as once more.  The position counts the bytes
fetched and the character that was looked at and is still to be fetched, and only the
last read of the stream can have been empty. -/
theorem calls_view (pieces : List Bytes) (chunkSize : Int) {script : Bytes}
    (before : (pieces.takeWhile fun piece => !piece.isEmpty).flatten = script)
    (calls : List Call) :
    ∃ answers s,
      calls.mapM Call.run (ofPieces pieces chunkSize) = .ok answers s ∧
      answers.length = calls.length ∧
      (∀ i < calls.length, answers[i]? =
        some (script.map fun byte => effective byte.toNat)[(calls.take i).count .fetch]?) ∧
      (∀ i j : Nat, i < j → calls[i]? = some .peek → calls[j]? = some .fetch →
        (∀ m : Nat, i < m → m < j → calls[m]? = some .peek) → answers[i]? = answers[j]?) ∧
      (∀ c, s.lookahead = some (some c) → effective c = c) ∧
      s.position = min (calls.count .fetch) script.length +
        (if calls.getLast? = some .peek ∧ calls.count .fetch < script.length then 1 else 0) ∧
      s.input.supply = .pieces (pieces.drop s.input.reads) ∧
      ∀ k, k + 1 < s.input.reads → pieces.getD k [] ≠ [] := by
  have fresh := reads_ofPieces pieces chunkSize before
  have undrawn : (ofPieces pieces chunkSize).Draws pieces :=
    ⟨rfl, fun k absurd => by cases absurd⟩
  rw [← List.length_map fun byte : UInt8 => effective byte.toNat] at fresh ⊢
  generalize script.map (fun byte => effective byte.toNat) = text at fresh ⊢
  obtain ⟨s, ran, reads, draws, held⟩ := run_calls fresh undrawn calls
  have answered (i : Nat) (made : i < calls.length) :
      (Call.answers text calls)[i]? = some text[(calls.take i).count .fetch]? :=
    Call.getElem?_answers text made
  refine ⟨_, s, ran, Call.length_answers _ _, answered, ?_,
    fun c held => reads.settled c (by rw [held]; rfl), ?_,
    draws.supply_eq, fun k => draws.getD_ne_nil⟩
  · intro i j ordered peek fetch peeks
    have made : j < calls.length := (List.getElem?_eq_some_iff.mp fetch).1
    have same : (calls.take j).count .fetch = (calls.take i).count .fetch := by
      refine Call.count_take_of_peeks (Nat.le_of_lt ordered) fun m from_i to_j => ?_
      rcases Nat.lt_or_eq_of_le from_i with later | rfl
      · exact peeks m later to_j
      · exact peek
    rw [answered i (Nat.lt_trans ordered made), answered j made, same]
  · rw [position_of_held reads, held, length_heldAfter]

/-- Two pieces, then an empty one and more: the carriage return is looked at and then
fetched as a line end, the tab is only looked at and counts for the position, and what
follows the empty piece is never read. -/
theorem calls_view_empty_piece :
    ([[13, 97], [9], [], [98]].takeWhile fun piece : Bytes => !piece.isEmpty).flatten =
        [13, 97, 9] ∧
      ∃ answers s,
        [Call.peek, .fetch, .fetch, .peek].mapM Call.run
          (ofPieces [[13, 97], [9], [], [98]] 0) = .ok answers s ∧
        answers[0]? = answers[1]? ∧ answers[1]? = some (some newline) ∧
        answers[3]? = some (some space) ∧ s.position = 3 ∧ s.input.reads ≤ 3 := by
  have before : ([[13, 97], [9], [], [98]].takeWhile fun piece : Bytes => !piece.isEmpty).flatten =
      [13, 97, 9] := rfl
  obtain ⟨answers, s, ran, _, answered, peeks, _, position, _, reads⟩ :=
    calls_view [[13, 97], [9], [], [98]] 0 before [.peek, .fetch, .fetch, .peek]
  refine ⟨before, answers, s, ran, peeks 0 1 (by decide) rfl rfl ?_, answered 1 (by decide),
    answered 3 (by decide), position, ?_⟩
  · intro m later earlier
    omega
  · exact Nat.le_of_not_lt fun more => reads 2 more rfl

end Source
end ScriptPress
