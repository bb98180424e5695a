import FlowRunner.Template.Render

/-!
This module contains what the replacement of templates leaves as it is: the text of a template
without tokens, the kind of each value of a configuration, and what is absent from it.
-/

namespace FlowRunner.Template

theorem flatMap_render_pieces (store : Entries) (cs : List Char)
    (plain : (pieces cs).any (fun | .token _ => true | .char _ => false) = false) :
    (pieces cs).flatMap (Piece.render store) = cs := by
  fun_induction pieces cs with
  | case1 cs name rest taken shorter ih => simp at plain
  | case2 taken => rfl
  | case3 taken c rest ih =>
    simp only [List.any_cons, Bool.false_or] at plain
    simp [Piece.render, ih plain]

theorem render_of_not_hasToken {template : String} (plain : hasToken template = false)
    (store : Entries) : render store template = template := by
  unfold render
  rw [flatMap_render_pieces store template.toList plain]
  simp

@[simp]
theorem isNull_renderValue (store : Entries) (v : Value) :
    (renderValue store v).isNull = v.isNull := by
  cases v <;> rfl

@[simp]
theorem isString_renderValue (store : Entries) (v : Value) :
    (renderValue store v).isString = v.isString := by
  cases v <;> rfl

theorem get_renderConfig (store config : Entries) (key : Key) :
    Entries.get (renderConfig store config) key = renderValue store (Entries.get config key) := by
  unfold Entries.get
  induction config with
  | nil => rfl
  | cons e rest ih =>
    obtain ⟨own, v⟩ := e
    rw [Entries.get?_cons, renderConfig, List.map_cons, Entries.get?_cons]
    split
    · rfl
    · exact ih

end FlowRunner.Template
