import LineShell.Path

/-!
# Forests

Values that are kept by lists of names. A *forest* is a row of trees; each has a name, may have a
value of its own, and is followed by the forest below it. Names share their beginnings, so what is
far down is found in as many steps as it has names.

A forest may name two trees of a row alike. Only the first of them is ever seen, so nothing has to
be said about it: `find?` is the view, and the laws of the operations hold in every forest.
-/

namespace LineShell

/-- Values by lists of names. -/
inductive Forest (α : Type) where
  /-- No values. -/
  | empty
  /-- A tree in front of further ones: its name, its own value, and what is below it. -/
  | tree (name : Name) (value : Option α) (below rest : Forest α)
  deriving DecidableEq, Repr

namespace Forest

variable {α : Type}

/-! ## The view -/

/-- The value at some names. There is none at no names. -/
def find? : Forest α → List Name → Option α
  | empty, _ => none
  | tree .., [] => none
  | tree m value below rest, n :: p =>
    if n = m then if p = [] then value else find? below p
    else find? rest (n :: p)

/-- The forest below some names. -/
def under : Forest α → List Name → Forest α
  | f, [] => f
  | empty, _ => empty
  | tree m _ below rest, n :: p => if n = m then under below p else under rest (n :: p)

/-- The names of the trees with values of their own. -/
def names : Forest α → List Name
  | empty => []
  | tree m value _ rest =>
    let others := (names rest).filter (· ≠ m)
    if value.isSome then m :: others else others

/-- The names at which there are values. -/
def places : Forest α → List (List Name)
  | empty => []
  | tree m value below rest =>
    (if value.isSome then [[m]] else []) ++ (places below).map (m :: ·) ++ places rest

@[simp] theorem find?_empty (p : List Name) : (empty : Forest α).find? p = none := by
  cases p <;> rfl

@[simp] theorem find?_nil (f : Forest α) : f.find? [] = none := by cases f <;> rfl

theorem find?_under (f : Forest α) (p : List Name) {q : List Name} (hq : q ≠ []) :
    (f.under p).find? q = f.find? (p ++ q) := by
  induction f generalizing p with
  | empty => cases p <;> simp [under]
  | tree m value below rest hbelow hrest =>
    cases p with
    | nil => rfl
    | cons n p =>
      by_cases h : n = m
      · simp [under, find?, h, hq, hbelow]
      · simpa [under, find?, h] using hrest (n :: p)

theorem mem_names_iff {f : Forest α} {n : Name} : n ∈ f.names ↔ (f.find? [n]).isSome := by
  induction f with
  | empty => simp [names]
  | tree m value below rest _ hrest =>
    by_cases h : n = m
    · cases value <;> simp [names, find?, h]
    · cases value <;> simp [names, find?, h, hrest]

theorem mem_places_of_isSome {f : Forest α} {p : List Name} (h : (f.find? p).isSome) :
    p ∈ f.places := by
  induction f generalizing p with
  | empty => simp at h
  | tree m value below rest hbelow hrest =>
    cases p with
    | nil => simp at h
    | cons n p =>
      rw [find?] at h
      split at h
      · next hn =>
        subst hn
        split at h
        · next hp => simp [places, hp, h]
        · simp [places, hbelow h]
      · simp [places, hrest h]

/-- Whether all values are of a kind. -/
def all (f : Forest α) (kind : α → Bool) : Bool :=
  match f with
  | empty => true
  | tree _ value below rest => value.all kind && below.all kind && rest.all kind

/-! ## Changes -/

/-- The forest with one value only. -/
def singleton (a : α) : List Name → Forest α
  | [] => empty
  | n :: p => tree n (if p = [] then some a else none) (singleton a p) empty

/-- The forest with a value put at some names, instead of any other there. -/
def insert (a : α) : Forest α → List Name → Forest α
  | f, [] => f
  | empty, p => singleton a p
  | tree m value below rest, n :: p =>
    if n = m then
      if p = [] then tree m (some a) below rest else tree m value (insert a below p) rest
    else tree m value below (insert a rest (n :: p))

/-- The forest without the values at and below some names. -/
def removeAll : Forest α → List Name → Forest α
  | f, [] => f
  | empty, _ => empty
  | tree m value below rest, n :: p =>
    if n = m then
      if p = [] then removeAll rest [n] else tree m value (removeAll below p) rest
    else tree m value below (removeAll rest (n :: p))

theorem find?_singleton (a : α) {p : List Name} (hp : p ≠ []) (q : List Name) :
    (singleton a p).find? q = if q = p then some a else none := by
  induction p generalizing q with
  | nil => exact absurd rfl hp
  | cons n p ih =>
    cases q with
    | nil => simp
    | cons m q =>
      by_cases hm : m = n
      · by_cases hq : q = []
        · by_cases hpe : p = [] <;> simp [singleton, find?, hm, hq, hpe, eq_comm]
        · by_cases hpe : p = []
          · simp [singleton, find?, hm, hq, hpe]
          · simp [singleton, find?, hm, hq, ih hpe]
      · simp [singleton, find?, hm]

/-- Putting a value somewhere shows there and nowhere else. -/
theorem find?_insert (f : Forest α) {p : List Name} (hp : p ≠ []) (a : α) (q : List Name) :
    (f.insert a p).find? q = if q = p then some a else f.find? q := by
  induction f generalizing p q with
  | empty =>
    obtain ⟨n, p, rfl⟩ := List.exists_cons_of_ne_nil hp
    simpa [insert] using find?_singleton a hp q
  | tree m value below rest hbelow hrest =>
    obtain ⟨n, p, rfl⟩ := List.exists_cons_of_ne_nil hp
    cases q with
    | nil => simp
    | cons k q =>
      by_cases hn : n = m
      · subst hn
        by_cases hk : k = n
        · by_cases hpe : p = [] <;> by_cases hq : q = [] <;>
            simp [insert, find?, hk, hpe, hq, hbelow, eq_comm]
        · by_cases hpe : p = [] <;> simp [insert, find?, hpe, hk]
      · by_cases hk : k = m
        · simp [insert, find?, hn, hk, Ne.symm hn]
        · simp [insert, find?, hn, hk, hrest]

theorem insert_singleton (a b : α) (p : List Name) :
    (singleton a p).insert b p = singleton b p := by
  induction p with
  | nil => rfl
  | cons n p ih => by_cases hp : p = [] <;> simp [singleton, insert, hp, ih]

/-- Of two values put at the same names only the second is there, as if it had been put there at
once. -/
theorem insert_insert (f : Forest α) (p : List Name) (a b : α) :
    (f.insert a p).insert b p = f.insert b p := by
  induction f generalizing p with
  | empty =>
    rcases p with _ | ⟨n, p⟩
    · rfl
    · exact insert_singleton a b (n :: p)
  | tree m value below rest hbelow hrest =>
    rcases p with _ | ⟨n, p⟩
    · rfl
    · by_cases hn : n = m
      · by_cases hp : p = [] <;> simp [insert, hn, hp, hbelow]
      · simp [insert, hn, hrest]

/-- Removing some names shows at them and below, and nowhere else. -/
theorem find?_removeAll (f : Forest α) {p : List Name} (hp : p ≠ []) (q : List Name) :
    (f.removeAll p).find? q = if p <+: q then none else f.find? q := by
  induction f generalizing p q with
  | empty =>
    obtain ⟨n, p, rfl⟩ := List.exists_cons_of_ne_nil hp
    simp [removeAll]
  | tree m value below rest hbelow hrest =>
    obtain ⟨n, p, rfl⟩ := List.exists_cons_of_ne_nil hp
    cases q with
    | nil => simp
    | cons k q =>
      by_cases hn : n = m
      · subst hn
        by_cases hk : k = n
        · by_cases hpe : p = [] <;> by_cases hq : q = [] <;>
            simp [removeAll, find?, hk, hpe, hq, hbelow, hrest]
        · by_cases hpe : p = [] <;>
            simp [removeAll, find?, hpe, hk, Ne.symm hk, hrest]
      · by_cases hk : k = m
        · simp [removeAll, find?, hn, hk]
        · simp [removeAll, find?, hn, hk, hrest]

/-! ## Differences -/

/-- The names at which two forests may have different values. Forests that grew from one are read
side by side, and where their trees have the same names nothing is looked up. -/
def suspects [DecidableEq α] : Forest α → Forest α → List (List Name)
  | empty, g => g.places
  | tree m value below rest, empty => (tree m value below rest).places
  | tree m value below rest, tree n value' below' rest' =>
    if m = n then
      (if value = value' then [] else [[m]]) ++ (suspects below below').map (m :: ·)
        ++ suspects rest rest'
    else
      let f := tree m value below rest
      f.places ++ (tree n value' below' rest').places.filter fun p ↦ (f.find? p).isNone

/-- No difference goes without suspicion. -/
theorem mem_suspects [DecidableEq α] {f g : Forest α} {p : List Name}
    (h : f.find? p ≠ g.find? p) : p ∈ f.suspects g := by
  have hsome {f g : Forest α} {p : List Name} (h : f.find? p ≠ g.find? p)
      (hf : f.find? p = none) : (g.find? p).isSome := by
    rw [Option.isSome_iff_ne_none]
    exact fun hg ↦ h (hf.trans hg.symm)
  induction f generalizing g p with
  | empty => exact mem_places_of_isSome (hsome h (find?_empty p))
  | tree m value below rest hbelow hrest =>
    cases g with
    | empty => exact mem_places_of_isSome (hsome h.symm (find?_empty p))
    | tree n value' below' rest' =>
      cases p with
      | nil => simp at h
      | cons k p =>
        rw [suspects]
        split
        · next hmn =>
          subst hmn
          simp only [find?] at h
          split at h
          · next hk =>
            subst hk
            split at h
            · next hp => simp [hp, h]
            · simp [hbelow h]
          · simp [hrest h]
        · rw [List.mem_append, List.mem_filter]
          cases hf : (tree m value below rest).find? (k :: p) with
          | none => exact .inr ⟨mem_places_of_isSome (hsome h hf), by simp⟩
          | some a => exact .inl (mem_places_of_isSome (by rw [hf]; rfl))

end Forest

end LineShell
