import LanguageClient.Editor.LineEditor

/-!
Keys, and how they move the cursor of an editor.
-/

namespace LanguageClient

inductive Key where
  | char (char : Char)
  | enter
  | tab
  | backspace
  | delete
  | escape
  | left
  | right
  | up
  | down
  | pageUp
  | pageDown
  | home
  | lineEnd
  | function (number : Nat)
deriving DecidableEq, Repr

/-- A key with what is held down along with it. -/
structure KeyPress where
  key : Key
  control : Bool := false
  shift : Bool := false
deriving DecidableEq, Repr

namespace Key

/-- A key by its name. A single character is the key that types it. -/
def ofName? : String → Option Key
  | "enter" => some .enter
  | "tab" => some .tab
  | "backspace" => some .backspace
  | "delete" => some .delete
  | "esc" => some .escape
  | "left" => some .left
  | "right" => some .right
  | "up" => some .up
  | "down" => some .down
  | "pageup" => some .pageUp
  | "pagedown" => some .pageDown
  | "home" => some .home
  | "end" => some .lineEnd
  | "f1" => some (.function 1)
  | "f12" => some (.function 12)
  | "space" => some (.char ' ')
  | name => name.toList.head?.map .char

end Key

namespace KeyPress

/-- A name without a modifier in front of it, and whether it has had that. -/
def withoutModifier (modifier : String) (name : List Char) : Bool × List Char :=
  match Text.withoutStart? modifier.toList name with
  | some rest => (true, rest)
  | none => (false, name)

/-- A key press by its name, behind what is held down along with it in either order. -/
def ofName? (name : String) : Option KeyPress :=
  let (controlFirst, afterControl) := withoutModifier "ctrl+" name.toList
  let (shift, afterShift) := withoutModifier "shift+" afterControl
  let (controlLast, plain) := withoutModifier "ctrl+" afterShift
  (Key.ofName? (String.ofList plain)).map fun key =>
    { key, control := controlFirst || controlLast, shift }

end KeyPress

namespace LineEditor

/-- The point that a key moves the cursor to. Most keys leave it where it is. -/
def pointAfter (editor : LineEditor) (key : Key) : TextPoint :=
  let { line, column } := editor.cursor
  let page := (max editor.textArea.height 1).toNat
  match key with
  | .left =>
    if column > 0 then
      { line, column := column - 1 }
    else if line > 0 then
      { line := line - 1, column := editor.buffer.lineLength (line - 1) }
    else
      editor.cursor
  | .right =>
    if column < editor.buffer.lineLength line then
      { line, column := column + 1 }
    else if line + 1 < editor.buffer.lines.length then
      { line := line + 1, column := 0 }
    else
      editor.cursor
  | .up => editor.buffer.clamp { line := line - 1, column }
  | .down => editor.buffer.clamp { line := line + 1, column }
  | .pageUp => editor.buffer.clamp { line := line - page, column }
  | .pageDown => editor.buffer.clamp { line := line + page, column }
  | .home => { line, column := 0 }
  | .lineEnd => { line, column := editor.buffer.lineLength line }
  | _ => editor.cursor

/-- Let a key move the cursor. -/
def moveCursor (editor : LineEditor) (key : Key) : LineEditor :=
  { editor with cursor := editor.pointAfter key }

end LineEditor

end LanguageClient
