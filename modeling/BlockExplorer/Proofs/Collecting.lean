import Mathlib.Data.List.Forall2
import BlockExplorer.Store.Fetch

/-!
Results that are collected over a list. All are there exactly when each one is; otherwise the first
item that fails decides the failure.
-/

namespace BlockExplorer.Collecting

variable {α β ε : Type}

variable {first : Except ε α} {failure : ε}

theorem bind_eq_ok_iff {next : α → Except ε β} {content : β} :
    first.bind next = .ok content ↔ ∃ found, first = .ok found ∧ next found = .ok content := by
  cases first with
  | ok found => simp [Except.bind]
  | error failure => simp [Except.bind]

theorem monad_bind_eq_ok_iff {next : α → Except ε β} {content : β} :
    first >>= next = .ok content ↔ ∃ found, first = .ok found ∧ next found = .ok content :=
  bind_eq_ok_iff

theorem bind_eq_error_iff {next : α → Except ε β} :
    first.bind next = .error failure ↔
      first = .error failure ∨ ∃ found, first = .ok found ∧ next found = .error failure := by
  cases first with
  | ok found => simp [Except.bind]
  | error failure => simp [Except.bind]

theorem monad_bind_eq_error_iff {next : α → Except ε β} :
    first >>= next = .error failure ↔
      first = .error failure ∨ ∃ found, first = .ok found ∧ next found = .error failure :=
  bind_eq_error_iff

theorem map_eq_ok_iff {f : α → β} {content : β} :
    first.map f = .ok content ↔ ∃ found, first = .ok found ∧ f found = content := by
  cases first with
  | ok found => simp [Except.map]
  | error failure => simp [Except.map]

theorem map_eq_error_iff {f : α → β} : first.map f = .error failure ↔ first = .error failure := by
  cases first with
  | ok found => simp [Except.map]
  | error failure => simp [Except.map]

theorem map_error_eq_ok_iff {f : ε → β} {content : α} :
    first.mapError f = .ok content ↔ first = .ok content := by
  cases first with
  | ok found => simp [Except.mapError]
  | error failure => simp [Except.mapError]

theorem map_m_cons_eq (f : α → Except ε β) (item : α) (rest : List α) :
    (item :: rest).mapM f =
      (f item).bind fun first => (rest.mapM f).bind fun others => .ok (first :: others) := by
  rw [List.mapM_cons]
  rfl

theorem map_m_eq_ok_iff {f : α → Except ε β} {items : List α} {contents : List β} :
    items.mapM f = .ok contents ↔
      List.Forall₂ (fun item content => f item = .ok content) items contents := by
  induction items generalizing contents with
  | nil =>
      rw [List.mapM_nil, List.forall₂_nil_left_iff]
      constructor
      · intro same
        exact (Except.ok.inj same).symm
      · intro same
        rw [same]
        rfl
  | cons item rest induction =>
      rw [map_m_cons_eq, List.forall₂_cons_left_iff]
      constructor
      · intro collected
        obtain ⟨first, head, later⟩ := bind_eq_ok_iff.mp collected
        obtain ⟨others, tail, same⟩ := bind_eq_ok_iff.mp later
        exact ⟨first, others, head, induction.mp tail, (Except.ok.inj same).symm⟩
      · rintro ⟨first, others, head, tail, rfl⟩
        rw [head, induction.mpr tail]
        rfl

theorem exists_of_map_m_eq_error {f : α → Except ε β} {items : List α}
    (failed : items.mapM f = .error failure) : ∃ item ∈ items, f item = .error failure := by
  induction items with
  | nil => simp [pure, Except.pure] at failed
  | cons item rest induction =>
      rw [map_m_cons_eq] at failed
      rcases bind_eq_error_iff.mp failed with head | ⟨first, _, later⟩
      · exact ⟨item, List.mem_cons_self, head⟩
      · rcases bind_eq_error_iff.mp later with tail | ⟨others, _, done⟩
        · obtain ⟨other, member, same⟩ := induction tail
          exact ⟨other, List.mem_cons_of_mem item member, same⟩
        · cases done

theorem exists_origin {γ : Type} {pairs : γ → α → Prop} {origins : List γ} {items : List α}
    {item : α} (paired : List.Forall₂ pairs origins items) (member : item ∈ items) :
    ∃ origin ∈ origins, pairs origin item := by
  induction paired with
  | nil => cases member
  | @cons first _ _ _ head tail induction =>
      rcases List.mem_cons.mp member with rfl | later
      · exact ⟨first, List.mem_cons_self, head⟩
      · obtain ⟨origin, present, pair⟩ := induction later
        exact ⟨origin, List.mem_cons_of_mem first present, pair⟩

theorem map_m_succeeds_iff {f : α → Except ε β} {items : List α} :
    (∃ contents, items.mapM f = .ok contents) ↔
      ∀ item ∈ items, ∃ content, f item = .ok content := by
  constructor
  · rintro ⟨contents, collected⟩ item member
    have paired := map_m_eq_ok_iff.mp collected
    obtain ⟨content, _, found⟩ := exists_origin paired.flip member
    exact ⟨content, found⟩
  · intro each
    cases collected : items.mapM f with
    | ok contents => exact ⟨contents, rfl⟩
    | error failure =>
        obtain ⟨item, member, failed⟩ := exists_of_map_m_eq_error collected
        obtain ⟨content, found⟩ := each item member
        rw [failed] at found
        contradiction

theorem map_eq_of_forall₂ {γ : Type} {relates : α → β → Prop} {f : α → γ} {g : β → γ}
    {items : List α} {contents : List β} (paired : List.Forall₂ relates items contents)
    (same : ∀ item ∈ items, ∀ content, relates item content → g content = f item) :
    contents.map g = items.map f := by
  induction paired with
  | nil => rfl
  | @cons item content _ _ head tail induction =>
      have first := same item List.mem_cons_self content head
      have rest := induction fun other member => same other (List.mem_cons_of_mem item member)
      rw [List.map_cons, List.map_cons, first, rest]

/-- What comes of all items: all contents in order, or the failure of one of the items. -/
inductive Collects (verdict : α → Except ε β → Prop) (items : List α) : Except ε (List β) → Prop
  | all {contents : List β}
      (each : List.Forall₂ (fun item content => verdict item (.ok content)) items contents) :
      Collects verdict items (.ok contents)
  | failed {item : α} {failure : ε} (member : item ∈ items)
      (fault : verdict item (.error failure)) : Collects verdict items (.error failure)

theorem Collects.mono {verdict weaker : α → Except ε β → Prop} {items : List α}
    {result : Except ε (List β)} (collects : Collects verdict items result)
    (follows : ∀ item result, verdict item result → weaker item result) :
    Collects weaker items result := by
  cases collects with
  | all each => exact .all (each.imp fun item content => follows item (.ok content))
  | failed member fault => exact .failed member (follows _ _ fault)

theorem forall₂_comp {γ : Type} {pairs : γ → α → Prop} {relates : α → β → Prop} {origins : List γ}
    {items : List α} {contents : List β} (paired : List.Forall₂ pairs origins items)
    (each : List.Forall₂ relates items contents) :
    List.Forall₂ (fun origin content => ∃ item, pairs origin item ∧ relates item content)
      origins contents := by
  induction paired generalizing contents with
  | nil =>
      cases each
      exact List.Forall₂.nil
  | @cons _ item _ _ head tail induction =>
      cases each with
      | cons first rest => exact .cons ⟨item, head, first⟩ (induction rest)

theorem forall₂_exists_iff {γ : Type} {pairs : γ → α → Prop} {relates : α → β → Prop}
    {origins : List γ} {contents : List β} :
    List.Forall₂ (fun origin content => ∃ item, pairs origin item ∧ relates item content)
        origins contents ↔
      ∃ items, List.Forall₂ pairs origins items ∧ List.Forall₂ relates items contents := by
  constructor
  · intro paired
    induction paired with
    | nil => exact ⟨[], .nil, .nil⟩
    | cons head _ induction =>
        obtain ⟨item, first, second⟩ := head
        obtain ⟨items, left, right⟩ := induction
        exact ⟨item :: items, .cons first left, .cons second right⟩
  · rintro ⟨items, left, right⟩
    exact forall₂_comp left right

theorem Collects.behind {γ : Type} {pairs : γ → α → Prop} {verdict : α → Except ε β → Prop}
    {origins : List γ} {items : List α} {result : Except ε (List β)}
    (paired : List.Forall₂ pairs origins items) (collects : Collects verdict items result) :
    Collects (fun origin result => ∃ item, pairs origin item ∧ verdict item result)
      origins result := by
  cases collects with
  | all each => exact .all (forall₂_comp paired each)
  | failed member fault =>
      obtain ⟨origin, present, pair⟩ := exists_origin paired member
      exact .failed present ⟨_, pair, fault⟩

theorem read_all_eq_map_m (reader : Row → Except Failure α) (rows : List Row) :
    Store.readAll reader rows = rows.mapM reader := by
  induction rows with
  | nil => rfl
  | cons row rest induction =>
      rw [map_m_cons_eq, Store.readAll, induction]
      rfl

end BlockExplorer.Collecting
