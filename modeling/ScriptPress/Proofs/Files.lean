/-
Where paths lead, and what opening and saving a file leave of a store.

A store is known by what it has at each location.  Opening a file to write, and
saving into it, changes what it has at the location that the path leads to and
nowhere else.  A path with a NUL is the only one that is not even looked up.
-/
import ScriptPress.Store

namespace ScriptPress
namespace Store

/-! ## Entries -/

theorem lookup_cons_of_ne {place other : Location} (elsewhere : other ≠ place) (node : Node)
    (rest : List (Location × Node)) : ((place, node) :: rest).lookup other = rest.lookup other := by
  rw [List.lookup_cons, beq_false_of_ne elsewhere]

theorem lookup_replaced (entries : List (Location × Node)) (location other : Location)
    (node : Node) :
    (entries.map fun e => if e.1 == location then (location, node) else e).lookup other =
      if other = location then (entries.lookup location).map fun _ => node
      else entries.lookup other := by
  induction entries with
  | nil => simp
  | cons entry rest ih =>
    obtain ⟨place, held⟩ := entry
    by_cases replaced : place = location
    · subst replaced
      by_cases here : other = place
      · simp [here]
      · rw [if_neg here] at ih ⊢
        rw [List.map_cons, if_pos (beq_self_eq_true place), lookup_cons_of_ne here,
          lookup_cons_of_ne here, ih]
    · rw [List.map_cons, if_neg (by simpa using replaced),
        lookup_cons_of_ne (fun same : location = place => replaced same.symm)]
      by_cases found : other = place
      · subst found
        simp [replaced]
      · rw [lookup_cons_of_ne found, lookup_cons_of_ne found, ih]

theorem get?_set (s : Store) (location : Location) (node : Node) (other : Location) :
    (s.set location node).get? other = if other = location then some node else s.get? other := by
  unfold set
  split
  next known =>
    rw [get?, lookup_replaced]
    obtain ⟨held, known⟩ := Option.isSome_iff_exists.mp known
    have known : s.entries.lookup location = some held := known
    rw [known]
    rfl
  next unknown =>
    have unknown : s.entries.lookup location = none := Option.not_isSome_iff_eq_none.mp unknown
    rw [get?, List.lookup_append]
    by_cases here : other = location
    · rw [if_pos here, here, unknown]
      simp
    · rw [if_neg here, lookup_cons_of_ne here, List.lookup_nil, Option.or_none]
      rfl

theorem home_set (s : Store) (location : Location) (node : Node) :
    (s.set location node).home = s.home := by
  unfold set
  split <;> rfl

/-! ## Saving -/

section Save

variable (s : Store) (location : Location) (content : Bytes)

theorem home_save : (s.save location content).home = s.home := by
  unfold save
  split
  · rfl
  · exact s.home_set location _

/-- Saving changes nothing elsewhere. -/
theorem get?_save_of_ne {other : Location} (elsewhere : other ≠ location) :
    (s.save location content).get? other = s.get? other := by
  unfold save
  split
  · rfl
  · rw [get?_set, if_neg elsewhere]

/-- What is saved is there, unless it was given to a device. -/
theorem get?_save (plain : ∀ device, s.get? location ≠ some (.device device)) :
    (s.save location content).get? location = some (.file content) := by
  unfold save
  split
  next device held => exact absurd held (plain device)
  · rw [get?_set, if_pos rfl]

theorem get?_save_save (plain : ∀ device, s.get? location ≠ some (.device device)) (more : Bytes) :
    ((s.save location content).save location more).get? location = some (.file more) := by
  refine get?_save _ location more fun device held => ?_
  rw [get?_save s location content plain] at held
  cases held

theorem save_of_device {device : Device} (held : s.get? location = some (.device device)) :
    s.save location content = s := by
  simp only [save, held]

end Save

/-! ## Opening -/

/-- The location that a text leads to as a path, if it leads to one. -/
def leads? (s : Store) (text : String) : Option Location :=
  (pathOf text).toOption.bind fun path => (s.locate path).toOption

def leadsToDevice (s : Store) (text : String) : Bool :=
  match (s.leads? text).bind s.get? with
  | some (.device _) => true
  | _ => false

variable {s : Store} {text : String}

theorem ne_device {location : Location} (leads : s.leads? text = some location)
    (plain : s.leadsToDevice text = false) (device : Device) :
    s.get? location ≠ some (.device device) := by
  intro held
  simp [leadsToDevice, leads, held] at plain

theorem leads?_of_locate {path : Path} {location : Location} (known : pathOf text = .ok path)
    (found : s.locate path = .ok location) : s.leads? text = some location := by
  simp [leads?, known, found, Except.toOption]

/-- What opens for reading is there, and is no directory and no device without an
end. -/
theorem openInput_eq_ok {location : Location} (h : s.openInput text = .ok location) :
    s.leads? text = some location ∧
      ∃ node, s.get? location = some node ∧ node ≠ .directory ∧ node ≠ .device .full := by
  simp only [openInput, bind, Except.bind] at h
  split at h
  · cases h
  next path known =>
    split at h
    · cases h
    next place found =>
      split at h
      · cases h
      · cases h
      next node held there =>
        split at h
        · cases h
        · split at h
          · cases h
          next ends =>
            cases h
            exact ⟨leads?_of_locate known found, node, there, held, ends⟩

/-- What opens for writing is no directory, and is emptied unless it is a device. -/
theorem openOutput_eq_ok {location : Location} {opened : Store}
    (h : s.openOutput text = .ok (location, opened)) :
    s.leads? text = some location ∧ s.get? location ≠ some .directory ∧
      opened = s.save location [] := by
  simp only [openOutput, bind, Except.bind] at h
  split at h
  · cases h
  next path known =>
    split at h
    · split at h
      · cases h
      · split at h <;> cases h
    · split at h
      · cases h
      next place found =>
        split at h
        · cases h
        next device there =>
          cases h
          exact ⟨leads?_of_locate known found, by rw [there]; nofun,
            (save_of_device _ _ _ there).symm⟩
        next solid plain =>
          cases h
          refine ⟨leads?_of_locate known found, solid, ?_⟩
          unfold save
          split
          next device there => exact absurd there (plain device)
          · rfl

/-! ## Paths with a NUL -/

theorem pathOf_eq_nullInPath : pathOf text = .error .nullInPath ↔ '\x00' ∈ text.toList := by
  unfold pathOf
  split
  next null => simpa using null
  next clean =>
    have clean : '\x00' ∉ text.toList := by simpa using clean
    refine iff_of_false ?_ clean
    split
    · nofun
    · split <;> nofun

theorem bind_ne_nullInPath {α β : Type} {x : Except OpenError α} {f : α → Except OpenError β}
    (first : x ≠ .error .nullInPath) (more : ∀ a, f a ≠ .error .nullInPath) :
    (x >>= f) ≠ .error .nullInPath := by
  cases x with
  | ok a => exact more a
  | error e =>
    intro null
    cases null
    exact first rfl

theorem requireDirectory_ne_nullInPath (s : Store) (here : Location) :
    s.requireDirectory here ≠ .error .nullInPath := by
  unfold requireDirectory
  split <;> nofun

theorem enter_ne_nullInPath (s : Store) (here : Location) (name : String) :
    s.enter here name ≠ .error .nullInPath := by
  refine bind_ne_nullInPath (s.requireDirectory_ne_nullInPath here) fun _ => ?_
  split <;> nofun

theorem locate_ne_nullInPath (s : Store) (path : Path) : s.locate path ≠ .error .nullInPath := by
  unfold locate
  generalize (if path.absolute then [] else s.home) = start
  induction path.names generalizing start with
  | nil => nofun
  | cons name rest ih =>
    rw [List.foldlM_cons]
    exact bind_ne_nullInPath (s.enter_ne_nullInPath start name) ih

/-- What is done with a path does not fail for a NUL, so that only one in the text
does. -/
theorem pathOf_bind_eq_nullInPath {β : Type} {f : Path → Except OpenError β}
    (more : ∀ path, f path ≠ .error .nullInPath) :
    (pathOf text >>= f) = .error .nullInPath ↔ '\x00' ∈ text.toList := by
  rw [← pathOf_eq_nullInPath]
  cases pathOf text with
  | ok path => exact iff_of_false (more path) nofun
  | error e =>
    show (Except.error e : Except OpenError β) = .error .nullInPath ↔ _
    rw [Except.error.injEq, Except.error.injEq]

theorem openInput_eq_nullInPath :
    s.openInput text = .error .nullInPath ↔ '\x00' ∈ text.toList := by
  refine pathOf_bind_eq_nullInPath fun path => ?_
  refine bind_ne_nullInPath (s.locate_ne_nullInPath path) fun location => ?_
  split
  · nofun
  · nofun
  · split
    · nofun
    · split <;> nofun

theorem openOutput_eq_nullInPath :
    s.openOutput text = .error .nullInPath ↔ '\x00' ∈ text.toList := by
  refine pathOf_bind_eq_nullInPath fun path => ?_
  split
  · refine bind_ne_nullInPath (s.locate_ne_nullInPath _) fun above => ?_
    exact bind_ne_nullInPath (s.requireDirectory_ne_nullInPath above) nofun
  · refine bind_ne_nullInPath (s.locate_ne_nullInPath path) fun location => ?_
    split <;> nofun

end Store
end ScriptPress
