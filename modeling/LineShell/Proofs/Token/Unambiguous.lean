import LineShell.Token.Grammar
import Mathlib.Data.List.ReduceOption
import Mathlib.Data.Nat.Init

/-!
# The grammar of lines is unambiguous and complete

Every text is the text of exactly one valid line, and its words can be told from the parts of that
line alone: they are what the parts between two separators stand for, put together, unless that is
nothing. `Line.existsUnique_render_and_tokenize` says both. So a text can be taken apart in one way
only, and what the reader of lines makes of it is what its parts mean.

## Taking a text apart

Existence follows the text: each character decides which part it begins, and a quote that is never
closed begins the ending. Uniqueness follows the parts: two valid parts before whatever follows them
have the same text only if they are the same (`Item.render_append_inj`).

Between double quotes a part is not told by its own text. A backslash that stands for itself is told
from an escape by the character behind it, so there whole bodies are compared, up to where the
segment stops (`Inner.Stops`).
-/

namespace LineShell.Token

/-! ## What parts stand for -/

/-- What a part between double quotes stands for. -/
def Inner.value : Inner → Text
  | .char c => if c = '\n' then [] else [c]
  | .escaped c => [c]
  | .backslash => ['\\']

/-- What an item stands for. A separator stands for nothing. -/
def Item.value : Item → Text
  | .separator _ => []
  | .bare c | .escaped c => [c]
  | .single body => body.filter (· ≠ '\n')
  | .double body => body.flatMap Inner.value

/-- What an ending stands for. -/
def Ending.value : Ending → Text
  | .complete => []
  | .backslash => ['\\']
  | .single body => body.filter (· ≠ '\n')
  | .double body => body.flatMap Inner.value
  | .doubleBackslash body => body.flatMap Inner.value ++ ['\\']

/-- What an item stands for in a row of items, or `none` if it separates them. -/
def Item.value? : Item → Option Text
  | .separator _ => none
  | i => some i.value

/-- What the parts of a line stand for, in order. -/
def Line.values (l : Line) : List (Option Text) :=
  l.items.map Item.value? ++ [some l.ending.value]

/-- The words of a line, said of its parts: what the parts between two separators stand for, put
together, unless that is nothing. -/
def Line.words (l : Line) : List Text :=
  ((l.values.splitOn none).map fun run ↦ run.reduceOption.flatten).filter (· ≠ [])

/-! ### Marks and values -/

/-- The marks of what a part stands for. -/
def marksOfValue : Option Text → List Mark
  | none => [none]
  | some t => t.map some

theorem Inner.marks_eq (i : Inner) : i.marks = i.value.map some := by
  cases i with
  | char c => rw [Inner.marks, Inner.value]; split <;> rfl
  | escaped c => rfl
  | backslash => rfl

theorem Inner.flatMap_marks_eq (body : List Inner) :
    body.flatMap Inner.marks = (body.flatMap Inner.value).map some := by
  rw [List.map_flatMap]
  exact List.flatMap_congr fun i _ ↦ i.marks_eq

theorem Item.marks_eq (i : Item) : i.marks = marksOfValue i.value? := by
  cases i with
  | double body => exact Inner.flatMap_marks_eq body
  | _ => rfl

theorem Ending.marks_eq (e : Ending) : e.marks = e.value.map some := by
  cases e with
  | double body => exact Inner.flatMap_marks_eq body
  | doubleBackslash body =>
    rw [Ending.marks, Ending.value, Inner.flatMap_marks_eq, List.map_append]
    rfl
  | _ => rfl

theorem Line.marks_eq (l : Line) : l.marks = l.values.flatMap marksOfValue := by
  rw [Line.marks, Line.values, List.flatMap_append, List.flatMap_map, Ending.marks_eq,
    List.flatMap_singleton]
  exact congrArg (· ++ _) (List.flatMap_congr fun i _ ↦ i.marks_eq)

/-- What stands between two separators makes one run of characters. -/
theorem flatMap_marksOfValue_of_not_mem {run : List (Option Text)} (h : none ∉ run) :
    run.flatMap marksOfValue = run.reduceOption.flatten.map some := by
  induction run with
  | nil => rfl
  | cons v run ih =>
    rw [List.mem_cons, not_or] at h
    obtain ⟨t, rfl⟩ := Option.ne_none_iff_exists'.1 (Ne.symm h.1)
    rw [List.flatMap_cons, ih h.2, List.reduceOption_cons_of_some, List.flatten_cons,
      List.map_append]
    rfl

/-- Words formed from marks are the runs between separators. -/
theorem wordsOf_flatMap_marksOfValue (vs : List (Option Text)) :
    wordsOf (vs.flatMap marksOfValue)
      = ((vs.splitOn none).map fun run ↦ run.reduceOption.flatten).filter (· ≠ []) := by
  -- On the length, because what is left behind a separator is not the tail.
  induction hn : vs.length using Nat.strong_induction_on generalizing vs with
  | _ n ih =>
    by_cases h : none ∈ vs
    · obtain ⟨run, rest, rfl, hrun⟩ := List.eq_append_cons_of_mem h
      have hrest : rest.length < n := by
        rw [← hn, List.length_append, List.length_cons]
        omega
      have hhead : wordsOf (run.flatMap marksOfValue)
          = [run.reduceOption.flatten].filter (· ≠ []) := by
        rw [flatMap_marksOfValue_of_not_mem hrun, wordsOf_map_some]
        by_cases he : run.reduceOption.flatten = [] <;> simp [he]
      rw [List.splitOn_append_cons_self_of_not_mem hrun, List.flatMap_append, List.flatMap_cons]
      calc wordsOf (run.flatMap marksOfValue ++ none :: rest.flatMap marksOfValue)
          = wordsOf (run.flatMap marksOfValue) ++ wordsOf (rest.flatMap marksOfValue) :=
            wordsOf_append_none _ _
        _ = _ := by rw [hhead, ih _ hrest rest rfl, ← List.filter_append]; rfl
    · rw [List.splitOn_eq_singleton h, flatMap_marksOfValue_of_not_mem h, wordsOf_map_some]
      by_cases he : vs.reduceOption.flatten = [] <;> simp [he]

theorem Line.wordsOf_marks (l : Line) : wordsOf l.marks = l.words := by
  rw [l.marks_eq, wordsOf_flatMap_marksOfValue, Line.words]

/-! ## Between double quotes -/

namespace Inner

/-- Where the parts of a segment stop: at the closing quote, or at the end of the line, which may
leave a backslash with nothing behind it. -/
def Stops (t : Text) : Prop := t = [] ∨ t = ['\\'] ∨ ∃ rest, t = '"' :: rest

theorem exists_cons_of_valid_backslash {rest : List Inner} (h : Valid (.backslash :: rest)) :
    ∃ c tail, rest = .char c :: tail ∧ ¬ IsEscapable c := by
  obtain ⟨⟨i, hi, hun⟩, -⟩ := h
  obtain ⟨tail, rfl⟩ := List.head?_eq_some_iff.1 hi
  cases i with
  | char c => exact ⟨c, tail, rfl, hun⟩
  | escaped c => exact absurd hun id
  | backslash => exact absurd hun id

theorem not_stops_of_valid {i : Inner} {rest : List Inner} (h : Valid (i :: rest)) (t : Text) :
    ¬ Stops ((i :: rest).flatMap render ++ t) := by
  rw [Stops, not_or, not_or]
  cases i with
  | char c =>
    obtain ⟨hd, hb, -⟩ := h
    exact ⟨by simp [render], by simp [render, hb], by simp [render, hd]⟩
  | escaped c => exact ⟨by simp [render], by simp [render], by simp [render]⟩
  | backslash =>
    obtain ⟨c, tail, rfl, -⟩ := exists_cons_of_valid_backslash h
    exact ⟨by simp [render], by simp [render], by simp [render]⟩

theorem Valid.tail {i : Inner} {rest : List Inner} (h : Valid (i :: rest)) : Valid rest := by
  cases i with
  | char c => exact h.2.2
  | escaped c => exact h.2
  | backslash => exact h.2

/-- An escape does not have the text of a lone backslash, whatever follows either. -/
theorem render_escaped_append_ne {c : Char} {rest rest' : List Inner}
    (h : Valid (.escaped c :: rest)) (h' : Valid (.backslash :: rest')) (t t' : Text) :
    (Inner.escaped c :: rest).flatMap render ++ t
      ≠ (Inner.backslash :: rest').flatMap render ++ t' := by
  obtain ⟨d, tail, rfl, hd⟩ := exists_cons_of_valid_backslash h'
  intro he
  have hcd : c = d := by
    simp only [List.flatMap_cons, render, List.cons_append, List.nil_append, List.cons.injEq] at he
    exact he.2.1
  exact hd (hcd ▸ h.1)

/-- The first part is told by the text. -/
theorem render_cons_append_inj {i i' : Inner} {rest rest' : List Inner} {t t' : Text}
    (h : Valid (i :: rest)) (h' : Valid (i' :: rest'))
    (he : (i :: rest).flatMap render ++ t = (i' :: rest').flatMap render ++ t') :
    i = i' ∧ rest.flatMap render ++ t = rest'.flatMap render ++ t' := by
  -- Only an escape and a lone backslash begin alike.
  match i, i', h, h' with
  | .char c, .char c', _, _ =>
    obtain ⟨rfl, hrest⟩ := List.cons.inj he
    exact ⟨rfl, hrest⟩
  | .char c, .escaped c', h, _ => exact absurd (List.cons.inj he).1 h.2.1
  | .char c, .backslash, h, _ => exact absurd (List.cons.inj he).1 h.2.1
  | .escaped c, .char c', _, h' => exact absurd (List.cons.inj he).1.symm h'.2.1
  | .backslash, .char c', _, h' => exact absurd (List.cons.inj he).1.symm h'.2.1
  | .escaped c, .escaped c', _, _ =>
    obtain ⟨rfl, hrest⟩ := List.cons.inj (List.cons.inj he).2
    exact ⟨rfl, hrest⟩
  | .escaped c, .backslash, h, h' => exact absurd he (render_escaped_append_ne h h' t t')
  | .backslash, .escaped c', h, h' => exact absurd he.symm (render_escaped_append_ne h' h t' t)
  | .backslash, .backslash, _, _ => exact ⟨rfl, (List.cons.inj he).2⟩

/-- The parts of a segment are told by their text, up to where they stop. -/
theorem flatMap_render_append_inj {body body' : List Inner} {t t' : Text} (h : Valid body)
    (h' : Valid body') (ht : Stops t) (ht' : Stops t')
    (he : body.flatMap render ++ t = body'.flatMap render ++ t') : body = body' ∧ t = t' := by
  induction body generalizing body' with
  | nil =>
    cases body' with
    | nil => exact ⟨rfl, he⟩
    | cons i' rest' => exact absurd ((show t = _ from he) ▸ ht) (not_stops_of_valid h' t')
  | cons i rest ih =>
    cases body' with
    | nil => exact absurd ((show _ = t' from he) ▸ ht') (not_stops_of_valid h t)
    | cons i' rest' =>
      obtain ⟨rfl, hrest⟩ := render_cons_append_inj h h' he
      obtain ⟨rfl, rfl⟩ := ih h.tail h'.tail hrest
      exact ⟨rfl, rfl⟩

theorem exists_cons_of_not_isEscapable {c : Char} {t rest : Text} {body : List Inner}
    (hc : ¬ IsEscapable c) (hbody : Valid body) (hrest : Stops rest)
    (he : c :: t = body.flatMap render ++ rest) : ∃ tail, body = .char c :: tail := by
  have hd : c ≠ '"' := fun h ↦ hc (by simp [IsEscapable, h])
  have hb : c ≠ '\\' := fun h ↦ hc (by simp [IsEscapable, h])
  cases body with
  | nil =>
    rcases hrest with rfl | rfl | ⟨rest, rfl⟩
    · exact absurd he (List.cons_ne_nil c t)
    · exact absurd (List.cons.inj he).1 hb
    · exact absurd (List.cons.inj he).1 hd
  | cons i tail =>
    cases i with
    | char d => exact ⟨tail, by rw [(List.cons.inj he).1]⟩
    | escaped d => exact absurd (List.cons.inj he).1 hb
    | backslash => exact absurd (List.cons.inj he).1 hb

/-- Every text begins with parts of a segment, up to where they stop. -/
theorem exists_valid_append (t : Text) :
    ∃ body rest, Valid body ∧ Stops rest ∧ t = body.flatMap render ++ rest := by
  -- On the length, because an escape takes two characters.
  induction hn : t.length using Nat.strongRecOn generalizing t with
  | _ n ih =>
    have hlt (t' : Text) (h : t'.length < t.length) := ih t'.length (hn ▸ h) t' rfl
    by_cases hbackslash : ∃ t', t = '\\' :: t'
    · obtain ⟨t, rfl⟩ := hbackslash
      cases t with
      | nil => exact ⟨[], ['\\'], trivial, .inr (.inl rfl), rfl⟩
      | cons c t =>
        by_cases hc : IsEscapable c
        · obtain ⟨body, rest, hbody, hrest, rfl⟩ := hlt t (by simp only [List.length_cons]; omega)
          exact ⟨.escaped c :: body, rest, ⟨hc, hbody⟩, hrest, rfl⟩
        · obtain ⟨body, rest, hbody, hrest, he⟩ := hlt (c :: t) (by simp)
          obtain ⟨tail, rfl⟩ := exists_cons_of_not_isEscapable hc hbody hrest he
          refine ⟨.backslash :: .char c :: tail, rest, ⟨⟨.char c, rfl, hc⟩, hbody⟩, hrest, ?_⟩
          rw [he]
          rfl
    · cases t with
      | nil => exact ⟨[], [], trivial, .inl rfl, rfl⟩
      | cons c t =>
        by_cases hd : c = '"'
        · exact ⟨[], c :: t, trivial, .inr (.inr ⟨t, by rw [hd]⟩), rfl⟩
        · obtain ⟨body, rest, hbody, hrest, rfl⟩ := hlt t (by simp)
          have hb : c ≠ '\\' := fun h ↦ hbackslash ⟨_, by rw [h]⟩
          exact ⟨.char c :: body, rest, ⟨hd, hb, hbody⟩, hrest, rfl⟩

end Inner

/-! ## Items and endings -/

theorem append_cons_inj_of_not_mem {c : Char} {s s' t t' : Text} (h : c ∉ s) (h' : c ∉ s')
    (he : s ++ c :: t = s' ++ c :: t') : s = s' ∧ t = t' := by
  rcases List.append_eq_append_iff.1 he with ⟨u, rfl, hu⟩ | ⟨u, rfl, hu⟩
  · cases u with
    | nil => exact ⟨(List.append_nil s).symm, (List.cons.inj hu).2⟩
    | cons d u => exact absurd (by simp [(List.cons.inj hu).1]) h'
  · cases u with
    | nil => exact ⟨List.append_nil s', (List.cons.inj hu).2.symm⟩
    | cons d u => exact absurd (by simp [(List.cons.inj hu).1]) h

namespace Item

/-- The first character of an item. -/
def lead : Item → Char
  | .separator c | .bare c => c
  | .escaped _ => '\\'
  | .single _ => '\''
  | .double _ => '"'

theorem render_eq_lead_cons (i : Item) : i.render = i.lead :: i.render.tail := by
  cases i <;> rfl

/-- An item is told by the text, whatever follows it. -/
theorem render_append_inj {i i' : Item} {t t' : Text} (h : i.Valid) (h' : i'.Valid)
    (he : i.render ++ t = i'.render ++ t') : i = i' ∧ t = t' := by
  have hlead : i.lead = i'.lead := by
    rw [render_eq_lead_cons i, render_eq_lead_cons i'] at he
    exact (List.cons.inj he).1
  cases i <;> cases i'
  case separator.separator c c' => exact ⟨congrArg _ hlead, (List.cons.inj he).2⟩
  case bare.bare c c' => exact ⟨congrArg _ hlead, (List.cons.inj he).2⟩
  case escaped.escaped c c' =>
    obtain ⟨rfl, hrest⟩ := List.cons.inj (List.cons.inj he).2
    exact ⟨rfl, hrest⟩
  case single.single body body' =>
    have hbody : body ++ '\'' :: t = body' ++ '\'' :: t' := by
      simpa [render] using he
    obtain ⟨rfl, rfl⟩ := append_cons_inj_of_not_mem h h' hbody
    exact ⟨rfl, rfl⟩
  case double.double body body' =>
    have hbody : body.flatMap Inner.render ++ '"' :: t
        = body'.flatMap Inner.render ++ '"' :: t' := by
      simpa [render] using he
    obtain ⟨rfl, ht⟩ := Inner.flatMap_render_append_inj h h' (.inr (.inr ⟨t, rfl⟩))
      (.inr (.inr ⟨t', rfl⟩)) hbody
    exact ⟨rfl, (List.cons.inj ht).2⟩
  -- Of all others, no two begin alike.
  all_goals
    exfalso
    simp only [lead, Valid, IsSeparator] at hlead h h'
    grind

end Item

namespace Ending

theorem double_append_ne {body body' : List Inner} (h : Inner.Valid body) (h' : Inner.Valid body')
    {s : Text} (hs : s = [] ∨ s = ['\\']) (t : Text) :
    (Item.double body).render ++ t ≠ '"' :: body'.flatMap Inner.render ++ s := by
  intro he
  have hbody : body.flatMap Inner.render ++ '"' :: t = body'.flatMap Inner.render ++ s := by
    simpa [Item.render] using he
  have hstops : Inner.Stops s := by
    rcases hs with rfl | rfl
    · exact .inl rfl
    · exact .inr (.inl rfl)
  obtain ⟨-, ht⟩ := Inner.flatMap_render_append_inj h h' (.inr (.inr ⟨t, rfl⟩)) hstops hbody
  rcases hs with rfl | rfl
  · exact absurd ht (by simp)
  · exact absurd ht (by simp)

/-- An item, whatever follows it, is not what the end of a line leaves incomplete. -/
theorem item_append_ne_render {i : Item} {e : Ending} (h : i.Valid) (he : e.Valid) (t : Text) :
    i.render ++ t ≠ e.render := by
  intro heq
  have hlead : e.render.head? = some i.lead := by rw [← heq, Item.render_eq_lead_cons]; rfl
  cases i <;> cases e
  case escaped.backslash c => exact absurd heq (by simp [Item.render, render])
  case single.single body' body =>
    have hbody : body' ++ '\'' :: t = body := by simpa [Item.render, render] using heq
    exact he (by rw [← hbody]; simp)
  case double.double body' body =>
    exact double_append_ne h he (.inl rfl) t (by rw [List.append_nil]; exact heq)
  case double.doubleBackslash body' body => exact double_append_ne h he (.inr rfl) t heq
  -- Of all others, no two begin alike.
  all_goals
    exfalso
    simp only [Item.lead, render, Item.Valid, IsSeparator] at hlead h
    grind

theorem double_inj {body body' : List Inner} (h : Inner.Valid body) (h' : Inner.Valid body')
    {s s' : Text} (hs : Inner.Stops s) (hs' : Inner.Stops s')
    (he : '"' :: body.flatMap Inner.render ++ s = '"' :: body'.flatMap Inner.render ++ s') :
    body = body' ∧ s = s' :=
  Inner.flatMap_render_append_inj h h' hs hs' (List.cons.inj he).2

theorem render_inj {e e' : Ending} (h : e.Valid) (h' : e'.Valid) (he : e.render = e'.render) :
    e = e' := by
  have hnil : Inner.Stops [] := .inl rfl
  have hback : Inner.Stops ['\\'] := .inr (.inl rfl)
  cases e <;> cases e'
  case complete.complete => rfl
  case backslash.backslash => rfl
  case single.single body body' => exact congrArg _ (List.cons.inj he).2
  case double.double body body' =>
    have he : '"' :: body.flatMap Inner.render ++ [] = '"' :: body'.flatMap Inner.render ++ [] := by
      rw [List.append_nil, List.append_nil]
      exact he
    obtain ⟨rfl, -⟩ := double_inj h h' hnil hnil he
    rfl
  case doubleBackslash.doubleBackslash body body' =>
    obtain ⟨rfl, -⟩ := double_inj h h' hback hback he
    rfl
  case double.doubleBackslash body body' =>
    obtain ⟨-, hs⟩ := double_inj h h' hnil hback (by rw [List.append_nil]; exact he)
    exact absurd hs (by simp)
  case doubleBackslash.double body body' =>
    obtain ⟨-, hs⟩ := double_inj h h' hback hnil (by rw [List.append_nil]; exact he)
    exact absurd hs (by simp)
  -- All others begin differently.
  all_goals exact absurd he (by simp [render])

end Ending

/-! ## Lines -/

namespace Line

theorem render_inj {l l' : Line} (h : l.Valid) (h' : l'.Valid) (he : l.render = l'.render) :
    l = l' := by
  obtain ⟨items, ending⟩ := l
  obtain ⟨items', ending'⟩ := l'
  obtain ⟨hitems, hending⟩ := h
  obtain ⟨hitems', hending'⟩ := h'
  simp only [render] at hitems hitems' hending hending' he
  induction items generalizing items' with
  | nil =>
    cases items' with
    | nil => rw [Ending.render_inj hending hending' he]
    | cons i' items' =>
      rw [List.flatMap_cons, List.append_assoc] at he
      exact absurd he.symm
        (Ending.item_append_ne_render (hitems' i' List.mem_cons_self) hending _)
  | cons i items ih =>
    rw [List.flatMap_cons, List.append_assoc] at he
    obtain ⟨hi, hrest⟩ := List.forall_mem_cons.1 hitems
    cases items' with
    | nil => exact absurd he (Ending.item_append_ne_render hi hending' _)
    | cons i' items' =>
      rw [List.flatMap_cons, List.append_assoc] at he
      obtain ⟨hi', hrest'⟩ := List.forall_mem_cons.1 hitems'
      obtain ⟨rfl, htail⟩ := Item.render_append_inj hi hi' he
      obtain ⟨rfl, rfl⟩ := Line.mk.inj (ih items' htail hrest hrest')
      rfl

theorem exists_of_item {i : Item} (h : i.Valid) {t : Text}
    (ht : ∃ l : Line, l.Valid ∧ l.render = t) : ∃ l : Line, l.Valid ∧ l.render = i.render ++ t := by
  obtain ⟨l, ⟨hitems, hending⟩, rfl⟩ := ht
  refine ⟨⟨i :: l.items, l.ending⟩, ⟨List.forall_mem_cons.2 ⟨h, hitems⟩, hending⟩, ?_⟩
  simp [render]

theorem exists_of_ending {e : Ending} (h : e.Valid) : ∃ l : Line, l.Valid ∧ l.render = e.render :=
  ⟨⟨[], e⟩, ⟨by simp, h⟩, rfl⟩

/-- Every text is the text of a line. -/
theorem exists_render_eq (t : Text) : ∃ l : Line, l.Valid ∧ l.render = t := by
  -- On the length, because a segment takes many characters.
  induction hn : t.length using Nat.strongRecOn generalizing t with
  | _ n ih =>
    have hlt (t' : Text) (h : t'.length < t.length) := ih t'.length (hn ▸ h) t' rfl
    cases t with
    | nil => exact exists_of_ending (e := .complete) trivial
    | cons c t =>
      by_cases hs : c = '\''
      · subst hs
        by_cases hclosed : '\'' ∈ t
        · obtain ⟨body, rest, rfl, hbody⟩ := List.eq_append_cons_of_mem hclosed
          have hrest := hlt rest (by simp only [List.length_append, List.length_cons]; omega)
          simpa [Item.render] using exists_of_item (i := .single body) hbody hrest
        · exact exists_of_ending (e := .single t) hclosed
      by_cases hd : c = '"'
      · subst hd
        obtain ⟨body, rest, hbody, hstops, rfl⟩ := Inner.exists_valid_append t
        rcases hstops with rfl | rfl | ⟨rest, rfl⟩
        · simpa [Ending.render] using exists_of_ending (e := .double body) hbody
        · simpa [Ending.render] using exists_of_ending (e := .doubleBackslash body) hbody
        · have hrest := hlt rest (by simp only [List.length_append, List.length_cons]; omega)
          simpa [Item.render] using exists_of_item (i := .double body) hbody hrest
      by_cases hb : c = '\\'
      · subst hb
        cases t with
        | nil => exact exists_of_ending (e := .backslash) trivial
        | cons c t =>
          have hshort : t.length < ('\\' :: c :: t).length := by
            simp only [List.length_cons]; omega
          exact exists_of_item (i := .escaped c) trivial (hlt t hshort)
      by_cases hsep : IsSeparator c
      · exact exists_of_item (i := .separator c) hsep (hlt t (by simp))
      · exact exists_of_item (i := .bare c) ⟨hsep, hs, hd, hb⟩ (hlt t (by simp))

/-- **Every text is the text of exactly one line,** and its words are those of that line. -/
theorem existsUnique_render_and_tokenize (t : Text) :
    (∃! l : Line, l.Valid ∧ l.render = t) ∧
      ∀ l : Line, l.Valid → l.render = t → tokenize t = l.words := by
  constructor
  · obtain ⟨l, hl, ht⟩ := exists_render_eq t
    exact ⟨l, ⟨hl, ht⟩, fun l' h ↦ render_inj h.1 hl (h.2.trans ht.symm)⟩
  · rintro l hl rfl
    rw [tokenize_render hl, l.wordsOf_marks]

end Line

end LineShell.Token
