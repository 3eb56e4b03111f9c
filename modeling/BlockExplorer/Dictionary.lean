/-!
Lists of named entries in which a name occurs once. A new name goes to the end; a name that is
there keeps its place and takes the new value.
-/

namespace BlockExplorer.Dictionary

variable {Name Content : Type} [DecidableEq Name]

def put (name : Name) (content : Content) : List (Name × Content) → List (Name × Content)
  | [] => [(name, content)]
  | (other, old) :: rest =>
      if other = name then (other, content) :: rest else (other, old) :: put name content rest

def ofEntries (entries : List (Name × Content)) : List (Name × Content) :=
  entries.foldl (fun known entry => put entry.1 entry.2 known) []

variable [BEq Name] [LawfulBEq Name]

theorem lookup_cons (wanted name : Name) (content : Content) (entries : List (Name × Content)) :
    ((name, content) :: entries).lookup wanted =
      if wanted = name then some content else entries.lookup wanted := by
  by_cases same : wanted = name
  · subst same
    rw [if_pos rfl, List.lookup_cons_self]
  · rw [if_neg same, List.lookup_cons, beq_eq_false_iff_ne.mpr same]

theorem lookup_put (name wanted : Name) (content : Content) (entries : List (Name × Content)) :
    (put name content entries).lookup wanted =
      if wanted = name then some content else entries.lookup wanted := by
  induction entries with
  | nil => rw [put, lookup_cons]
  | cons entry rest induction =>
      obtain ⟨other, old⟩ := entry
      rw [put]
      by_cases found : other = name
      · subst found
        rw [if_pos rfl, lookup_cons, lookup_cons]
        by_cases same : wanted = other <;> simp [same]
      · rw [if_neg found, lookup_cons, lookup_cons, induction]
        by_cases same : wanted = other
        · subst same
          simp [found]
        · simp [same]

theorem lookup_foldl_put (wanted : Name) (entries known : List (Name × Content)) :
    (entries.foldl (fun known entry => put entry.1 entry.2 known) known).lookup wanted =
      (entries.reverse.lookup wanted).or (known.lookup wanted) := by
  induction entries generalizing known with
  | nil => rfl
  | cons entry rest induction =>
      rw [List.foldl_cons, induction, lookup_put, List.reverse_cons, List.lookup_append,
        lookup_cons, List.lookup_nil, Option.or_assoc]
      split <;> rfl

/-- The last entry of a name counts. -/
theorem lookup_of_entries (wanted : Name) (entries : List (Name × Content)) :
    (ofEntries entries).lookup wanted = entries.reverse.lookup wanted := by
  rw [ofEntries, lookup_foldl_put, List.lookup_nil, Option.or_none]

theorem lookup_of_entries_eq_some_iff {wanted : Name} {content : Content}
    {entries : List (Name × Content)} :
    (ofEntries entries).lookup wanted = some content ↔
      ∃ before after, entries = before ++ (wanted, content) :: after ∧
        ∀ entry ∈ after, entry.1 ≠ wanted := by
  rw [lookup_of_entries, List.lookup_eq_some_iff]
  constructor
  · rintro ⟨after, before, reversed, later⟩
    refine ⟨before.reverse, after.reverse, ?_, fun entry member same => ?_⟩
    · rw [← List.reverse_reverse entries, reversed]
      simp
    · exact bne_iff_ne.mp (later entry (List.mem_reverse.mp member)) same.symm
  · rintro ⟨before, after, rfl, later⟩
    refine ⟨after.reverse, before.reverse, by simp, fun entry member => ?_⟩
    exact bne_iff_ne.mpr (later entry (List.mem_reverse.mp member)).symm

theorem lookup_of_entries_eq_none_iff {wanted : Name} {entries : List (Name × Content)} :
    (ofEntries entries).lookup wanted = none ↔ ∀ entry ∈ entries, entry.1 ≠ wanted := by
  rw [lookup_of_entries, List.lookup_eq_none_iff]
  constructor
  · intro absent entry member same
    exact bne_iff_ne.mp (absent entry (List.mem_reverse.mpr member)) same.symm
  · intro absent entry member
    exact bne_iff_ne.mpr (absent entry (List.mem_reverse.mp member)).symm

end BlockExplorer.Dictionary
