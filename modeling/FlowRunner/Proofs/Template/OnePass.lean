import FlowRunner.Proofs.Template.Plain
import Mathlib.Data.List.Basic
import Mathlib.Data.List.TakeWhile

/-!
This module contains what the replacement of a template's tokens is: each token is replaced where it
stands, whatever surrounds it, and all else is kept (`one_pass`).
-/

namespace FlowRunner.Template

/-! ### Tokens -/

def IsName (w : String) : Prop :=
  w ≠ "" ∧ ∀ c ∈ w.toList, Text.isWordChar c = true

def Occurs (w s : String) : Prop :=
  ∃ a b, s = a ++ tokenText w ++ b

/-- What replaces the token of a name: the text of its variable, or the token itself. -/
inductive Replaces (store : Entries) (w : String) : String → Prop where
  | bound {v : Value} (held : Entries.get? store (.str w) = some v) : Replaces store w (textOf v)
  | unbound (free : Entries.get? store (.str w) = none) : Replaces store w (tokenText w)

def tokenChars (name : List Char) : List Char :=
  '{' :: '{' :: (name ++ ['}', '}'])

variable {name cs rest a b : List Char} {c : Char}

theorem IsName.ne_nil {w : String} (named : IsName w) : w.toList ≠ [] := by
  rw [ne_eq, String.toList_eq_nil_iff]
  exact named.1

theorem toList_tokenText (w : String) : (tokenText w).toList = tokenChars w.toList := by
  simp [tokenText, tokenChars]

theorem takeClosing?_eq_some_iff : takeClosing? cs = some rest ↔ cs = '}' :: '}' :: rest := by
  unfold takeClosing?
  split
  · simp
  · next other =>
    simp only [reduceCtorEq, false_iff]
    rintro rfl
    exact other rest rfl

theorem not_mem_body (word : ∀ c ∈ name, Text.isWordChar c = true) :
    '{' ∉ name ++ ['}', '}'] := by
  intro mem
  simp only [List.mem_append, List.mem_cons, List.not_mem_nil, or_false] at mem
  rcases mem with mem | closing | closing
  · exact absurd (word _ mem) (by decide)
  · exact absurd closing (by decide)
  · exact absurd closing (by decide)

theorem takeToken?_eq_some_iff : takeToken? cs = some (name, rest) ↔
    cs = tokenChars name ++ rest ∧ name ≠ [] ∧ ∀ c ∈ name, Text.isWordChar c = true := by
  constructor
  · intro taken
    unfold takeToken? at taken
    split at taken
    · next tail =>
      split at taken
      · next first others left named closing =>
        obtain ⟨rfl, rfl⟩ := Prod.mk.inj (Option.some.inj taken)
        have split := List.takeWhile_append_dropWhile (p := Text.isWordChar) (l := tail)
        rw [named, takeClosing?_eq_some_iff.mp closing] at split
        refine ⟨?_, List.cons_ne_nil _ _, ?_⟩
        · rw [← split]
          simp [tokenChars]
        · intro c mem
          rw [← named] at mem
          exact List.mem_takeWhile_imp mem
      · cases taken
    · cases taken
  · rintro ⟨rfl, nonempty, word⟩
    have closing : Text.isWordChar '}' = false := by decide
    have taken : (name ++ '}' :: '}' :: rest).takeWhile Text.isWordChar = name := by
      rw [List.takeWhile_append_of_pos word]
      simp [closing]
    have dropped : (name ++ '}' :: '}' :: rest).dropWhile Text.isWordChar =
        '}' :: '}' :: rest := by
      rw [List.dropWhile_append_of_pos word]
      simp [closing]
    obtain ⟨first, others, rfl⟩ := List.exists_cons_of_ne_nil nonempty
    have whole : tokenChars (first :: others) ++ rest =
        '{' :: '{' :: (first :: others ++ '}' :: '}' :: rest) := by
      simp [tokenChars]
    rw [whole, takeToken?, taken, dropped]
    rfl

/-! ### The parts of a template around a token -/

-- A token that began before another one and went on into it would have one of its opening braces
-- among the word characters and closing braces behind its own.
theorem takeToken?_append_token (untaken : takeToken? (c :: a) = none) (w b : List Char) :
    takeToken? (c :: a ++ tokenChars w ++ b) = none := by
  rw [Option.eq_none_iff_forall_ne_some]
  rintro ⟨name, rest⟩ taken
  obtain ⟨split, nonempty, word⟩ := takeToken?_eq_some_iff.mp taken
  have apart := not_mem_body word
  rw [List.append_assoc, List.append_eq_append_iff] at split
  rcases split with ⟨more, token, tail⟩ | ⟨more, token, -⟩
  · cases more with
    | nil =>
      rw [List.append_nil] at token
      have whole : takeToken? (c :: a) = some (name, []) :=
        takeToken?_eq_some_iff.mpr ⟨by rw [List.append_nil, token], nonempty, word⟩
      rw [untaken] at whole
      cases whole
    | cons first more =>
      simp only [tokenChars, List.cons_append, List.cons.injEq] at token tail
      obtain ⟨rfl, tail⟩ := tail
      cases a with
      | nil =>
        obtain ⟨-, body⟩ : _ ∧ name ++ ['}', '}'] = more := by simpa using token
        cases more with
        | nil => simp at body
        | cons second more =>
          obtain ⟨rfl, -⟩ := List.cons.inj tail
          exact apart (body ▸ List.mem_cons_self)
      | cons second a =>
        obtain ⟨-, -, body⟩ : _ ∧ _ ∧ name ++ ['}', '}'] = a ++ '{' :: more := by
          simpa using token
        exact apart (body ▸ List.mem_append_right a List.mem_cons_self)
  · have whole : takeToken? (c :: a) = some (name, more) :=
      takeToken?_eq_some_iff.mpr ⟨token, nonempty, word⟩
    rw [untaken] at whole
    cases whole

theorem pieces_token (nonempty : name ≠ []) (word : ∀ c ∈ name, Text.isWordChar c = true) :
    pieces (tokenChars name ++ b) = .token (String.ofList name) :: pieces b := by
  have taken : takeToken? (tokenChars name ++ b) = some (name, b) :=
    takeToken?_eq_some_iff.mpr ⟨rfl, nonempty, word⟩
  rw [pieces]
  split
  · next other left taken' =>
    rw [taken] at taken'
    obtain ⟨rfl, rfl⟩ := Prod.mk.inj (Option.some.inj taken')
    rfl
  · next untaken =>
    rw [taken] at untaken
    cases untaken

theorem pieces_cons (untaken : takeToken? (c :: cs) = none) :
    pieces (c :: cs) = .char c :: pieces cs := by
  rw [pieces]
  split
  · next taken =>
    rw [untaken] at taken
    cases taken
  · rfl

theorem pieces_append_token {w : List Char} (nonempty : w ≠ [])
    (word : ∀ c ∈ w, Text.isWordChar c = true) (a b : List Char) :
    pieces (a ++ tokenChars w ++ b) = pieces a ++ .token (String.ofList w) :: pieces b := by
  fun_induction pieces a with
  | case1 a name rest taken shorter ih =>
    obtain ⟨rfl, nonempty', word'⟩ := takeToken?_eq_some_iff.mp taken
    rw [List.append_assoc, List.append_assoc, ← List.append_assoc rest,
      pieces_token nonempty' word', ih]
    rfl
  | case2 untaken => exact pieces_token nonempty word
  | case3 c rest untaken ih =>
    have later := takeToken?_append_token untaken w b
    rw [List.cons_append, List.cons_append] at later ⊢
    rw [pieces_cons later, ih]
    rfl

theorem replaces_substitute (store : Entries) (w : String) :
    Replaces store w (substitute store w) := by
  unfold substitute
  split
  · next held => exact .bound held
  · next free => exact .unbound free

theorem Replaces.eq_substitute {store : Entries} {w t : String} (replaces : Replaces store w t) :
    t = substitute store w := by
  unfold substitute
  cases replaces with
  | bound held => rw [held]
  | unbound free => rw [free]

theorem render_token {w : String} (named : IsName w) (store : Entries) (a b : String) :
    render store (a ++ tokenText w ++ b) =
      render store a ++ substitute store w ++ render store b := by
  unfold render
  rw [String.toList_append, String.toList_append, toList_tokenText,
    pieces_append_token named.ne_nil named.2, List.flatMap_append, List.flatMap_cons,
    String.ofList_toList, String.ofList_append, String.ofList_append, ← String.append_assoc,
    Piece.render, String.ofList_toList]

/-! ### Templates without a token -/

theorem exists_of_mem_pieces {w : String} (mem : .token w ∈ pieces cs) :
    IsName w ∧ ∃ a b, cs = a ++ tokenChars w.toList ++ b := by
  fun_induction pieces cs with
  | case1 cs name rest taken shorter ih =>
    obtain ⟨rfl, nonempty, word⟩ := takeToken?_eq_some_iff.mp taken
    rcases List.mem_cons.mp mem with same | mem
    · cases same
      refine ⟨⟨?_, ?_⟩, [], rest, ?_⟩
      · simpa using nonempty
      · simpa using word
      · simp
    · obtain ⟨named, a, b, split⟩ := ih mem
      refine ⟨named, tokenChars name ++ a, b, ?_⟩
      rw [split, List.append_assoc, List.append_assoc, List.append_assoc]
  | case2 => cases mem
  | case3 c rest untaken ih =>
    rw [List.mem_cons, or_iff_right (by simp)] at mem
    obtain ⟨named, a, b, split⟩ := ih mem
    exact ⟨named, c :: a, b, by rw [split, List.cons_append, List.cons_append]⟩

theorem occurs_of_mem_pieces {w s : String} (mem : .token w ∈ pieces s.toList) :
    IsName w ∧ Occurs w s := by
  obtain ⟨named, a, b, split⟩ := exists_of_mem_pieces mem
  refine ⟨named, String.ofList a, String.ofList b, ?_⟩
  rw [← String.toList_inj, split, String.toList_append, String.toList_append, toList_tokenText]
  simp

theorem hasToken_iff {s : String} : hasToken s = true ↔ ∃ w, IsName w ∧ Occurs w s := by
  constructor
  · intro has
    obtain ⟨piece, mem, token⟩ := List.any_eq_true.mp has
    cases piece with
    | token w => exact ⟨w, occurs_of_mem_pieces mem⟩
    | char c => cases token
  · rintro ⟨w, named, a, b, rfl⟩
    rw [hasToken, String.toList_append, String.toList_append, toList_tokenText,
      pieces_append_token named.ne_nil named.2]
    simp

theorem render_of_not_occurs {s : String} (plain : ∀ w, IsName w → ¬Occurs w s)
    (store : Entries) : render store s = s := by
  apply render_of_not_hasToken
  rw [← Bool.not_eq_true, hasToken_iff]
  rintro ⟨w, named, occurs⟩
  exact plain w named occurs

/-! ### What a rendered text depends on -/

variable {store other : Entries}

theorem render_congr {s : String}
    (same : ∀ w, IsName w → Occurs w s →
      Entries.get? store (.str w) = Entries.get? other (.str w)) :
    render store s = render other s := by
  unfold render
  congr 1
  apply List.flatMap_congr
  intro piece mem
  cases piece with
  | char c => rfl
  | token w =>
    obtain ⟨named, occurs⟩ := occurs_of_mem_pieces mem
    rw [Piece.render, Piece.render, substitute, substitute, same w named occurs]

theorem renderConfig_congr {config : Entries}
    (same : ∀ w, IsName w → (∃ key s, (key, .str s) ∈ config ∧ Occurs w s) →
      Entries.get? store (.str w) = Entries.get? other (.str w)) :
    renderConfig store config = renderConfig other config := by
  apply List.map_congr_left
  rintro ⟨key, v⟩ mem
  cases v with
  | str s =>
    have rendered := render_congr fun w named occurs => same w named ⟨key, s, mem, occurs⟩
    simp only [renderValue, rendered]
  | _ => rfl

theorem length_token (a b w : String) :
    (a ++ tokenText w ++ b).length = a.length + (w.length + 4) + b.length := by
  have token : (tokenText w).length = w.length + 4 := by
    rw [← String.length_toList, toList_tokenText, ← String.length_toList (s := w)]
    simp [tokenChars]
  rw [String.length_append, String.length_append, token]

-- The texts on both sides of a token are shorter than the whole.
theorem eq_render {f : String → String}
    (token : ∀ a b w t, IsName w → Replaces store w t →
      f (a ++ tokenText w ++ b) = f a ++ t ++ f b)
    (plain : ∀ s, (∀ w, IsName w → ¬Occurs w s) → f s = s) (s : String) : f s = render store s := by
  by_cases has : ∃ w, IsName w ∧ Occurs w s
  · obtain ⟨w, named, a, b, split⟩ := has
    have length := length_token a b w
    rw [← split] at length
    have before : a.length < s.length := by omega
    have after : b.length < s.length := by omega
    rw [split, token a b w _ named (replaces_substitute store w), render_token named,
      eq_render token plain a, eq_render token plain b]
  · have none : ∀ w, IsName w → ¬Occurs w s := fun w named occurs => has ⟨w, named, occurs⟩
    rw [plain s none, render_of_not_occurs none]
termination_by s.length

/-! ### Main result -/

structure OnePass (store : Entries) : Prop where
  form : ∀ w, (tokenText w).toList = '{' :: '{' :: (w.toList ++ ['}', '}'])
  total : ∀ w, ∃ t, Replaces store w t
  token : ∀ a b w t, IsName w → Replaces store w t →
    render store (a ++ tokenText w ++ b) = render store a ++ t ++ render store b
  plain : ∀ s, (∀ w, IsName w → ¬Occurs w s) → render store s = s
  /-- The two laws above leave no choice. -/
  unique : ∀ f : String → String,
    (∀ a b w t, IsName w → Replaces store w t → f (a ++ tokenText w ++ b) = f a ++ t ++ f b) →
    (∀ s, (∀ w, IsName w → ¬Occurs w s) → f s = s) → f = render store
  keys : ∀ config, Entries.keys (renderConfig store config) = Entries.keys config
  texts : ∀ (config : Entries) (i : Nat) (key : Key) (s : String),
    config[i]? = some (key, .str s) →
      (renderConfig store config)[i]? = some (key, .str (render store s))
  /-- A value that is no text stays as it is, with all texts inside it. -/
  others : ∀ (config : Entries) (i : Nat) (key : Key) (v : Value), config[i]? = some (key, v) →
    v.isString = false → (renderConfig store config)[i]? = some (key, v)
  /-- Variables whose token stands in no text of a configuration do not matter for it. -/
  needed : ∀ config other : Entries,
    (∀ w, IsName w → (∃ key s, (key, .str s) ∈ config ∧ Occurs w s) →
      Entries.get? store (.str w) = Entries.get? other (.str w)) →
    renderConfig store config = renderConfig other config

theorem one_pass (store : Entries) : OnePass store := by
  constructor
  case form => exact toList_tokenText
  case total =>
    intro w
    exact ⟨_, replaces_substitute store w⟩
  case token =>
    intro a b w t named replaces
    rw [replaces.eq_substitute]
    exact render_token named store a b
  case plain =>
    intro s plain
    exact render_of_not_occurs plain store
  case unique =>
    intro f token plain
    funext s
    exact eq_render token plain s
  case keys =>
    intro config
    simp [Entries.keys, renderConfig]
  case texts =>
    intro config i key s found
    rw [renderConfig, List.getElem?_map, found]
    rfl
  case others =>
    intro config i key v found kind
    rw [renderConfig, List.getElem?_map, found]
    cases v with
    | str s => cases kind
    | _ => rfl
  case needed =>
    intro config other same
    exact renderConfig_congr same

theorem one_pass_of_token_in_text :
    let store : Entries := [("x", .str "{{y}}"), ("y", .int 1)]
    let config (a : String) : Entries := [("a", .str a), ("b", .list [.str "{{y}}"])]
    IsName "x" ∧ IsName "y" ∧ IsName "z" ∧
      Replaces store "x" "{{y}}" ∧ Replaces store "y" "1" ∧ Replaces store "z" "{{z}}" ∧
      render store "{{{x}}}{{z}}{{ y }}" = "{{{y}}}{{z}}{{ y }}" ∧
      renderConfig store (config "{{y}}") = config "1" := by
  intro store config
  have name (c : Char) (word : Text.isWordChar c = true) : IsName (String.singleton c) :=
    ⟨by simp, by simpa using word⟩
  have x : IsName "x" := name 'x' (by decide)
  have y : IsName "y" := name 'y' (by decide)
  have z : IsName "z" := name 'z' (by decide)
  have forX : Replaces store "x" "{{y}}" := .bound (v := .str "{{y}}") rfl
  have forY : Replaces store "y" "1" := .bound (v := .int 1) rfl
  have forZ : Replaces store "z" "{{z}}" := .unbound rfl
  have plain (s : String) (none : hasToken s = false) : render store s = s := by
    apply (one_pass store).plain
    intro w named occurs
    rw [← Bool.not_eq_true, hasToken_iff] at none
    exact none ⟨w, named, occurs⟩
  have inner := (one_pass store).token (String.singleton '{') (String.singleton '}') "x" _ x forX
  have outer := (one_pass store).token "{{{x}}}" "{{ y }}" "z" _ z forZ
  have only := (one_pass store).token "" "" "y" _ y forY
  have texts : String.singleton '{' ++ tokenText "x" ++ String.singleton '}' = "{{{x}}}" ∧
      "{{{x}}}" ++ tokenText "z" ++ "{{ y }}" = "{{{x}}}{{z}}{{ y }}" ∧
      "" ++ tokenText "y" ++ "" = "{{y}}" := by
    simp [← String.toList_inj, toList_tokenText, tokenChars]
  rw [texts.1, plain (String.singleton '{') (by decide +kernel),
    plain (String.singleton '}') (by decide +kernel)] at inner
  rw [texts.2.1, inner, plain "{{ y }}" (by decide +kernel)] at outer
  rw [texts.2.2, plain "" (by decide +kernel)] at only
  refine ⟨x, y, z, forX, forY, forZ, outer.trans ?_, ?_⟩
  · simp
  · simp [config, renderConfig, renderValue, only]

end FlowRunner.Template
