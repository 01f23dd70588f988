import QueryCache.Log
import QueryCache.Log.Padding
import QueryCache.Log.Style
import QueryCache.Text.Ranges
import QueryCache.Text.Quoted

/-! Formats of log records.

A format is text with fields in braces; a doubled brace stands for one. A field names something
of the record, perhaps a part of it, and how it is converted and padded. Names in angle brackets
put a style on what follows, up to the same name after a slash; a backslash before one makes it
plain text. A format is sound if every brace and every style is closed in its order. -/

set_option autoImplicit false

namespace QueryCache

/-- A field as it is written. -/
structure LogField where
  name : List Char
  conversion : Option Char := none
  spec : List Char := []
  deriving DecidableEq, Repr

/-- A stretch of text, or a field. -/
inductive LayoutPiece where
  | text (chars : List Char)
  | field (f : LogField)
  deriving DecidableEq, Repr

namespace LayoutPiece

/-- The name of a field, the character that ends it and what follows; brackets are passed over. -/
def fieldName? : Bool → List Char → Option (List Char × Char × List Char)
  | _, [] => none
  | true, c :: rest =>
    (fieldName? (c != ']') rest).map fun (name, mark, after) => (c :: name, mark, after)
  | false, c :: rest =>
    if c = '\x7b' then none
    else if c = '\x7d' || c = ':' || c = '!' then some ([], c, rest)
    else (fieldName? (c = '[') rest).map fun (name, mark, after) => (c :: name, mark, after)

/-- The specification of a field up to the brace that ends it. -/
def fieldSpec? : Nat → List Char → Option (List Char × List Char)
  | _, [] => none
  | depth, c :: rest =>
    let next (depth : Nat) := (fieldSpec? depth rest).map fun (spec, after) => (c :: spec, after)
    if c = '\x7b' then next (depth + 1)
    else if c = '\x7d' then
      match depth with
      | 0 => some ([], rest)
      | depth + 1 => next depth
    else next depth

/-- A field after its first brace, and what follows it. -/
def field? (text : List Char) : Option (LogField × List Char) := do
  let (name, mark, rest) ← fieldName? false text
  if mark = '\x7d' then return (⟨name, none, []⟩, rest)
  if mark = ':' then
    let (spec, rest) ← fieldSpec? 0 rest
    return (⟨name, none, spec⟩, rest)
  match rest with
  | conversion :: '\x7d' :: rest => return (⟨name, some conversion, []⟩, rest)
  | conversion :: ':' :: rest =>
    let (spec, rest) ← fieldSpec? 0 rest
    return (⟨name, some conversion, spec⟩, rest)
  | _ => failure

/-- The pieces of a format after some text; a doubled brace ends a stretch of text. The fuel
bounds the characters. -/
def pieces? (seen : List Char) : Nat → List Char → Option (List LayoutPiece)
  | 0, _ => none
  | _, [] => some [.text seen.reverse]
  | fuel + 1, c :: rest =>
    if c = '\x7b' ∨ c = '\x7d' then
      match rest with
      | [] => none
      | d :: after =>
        if c = d then (pieces? [] fuel after).map (.text (c :: seen).reverse :: ·)
        else if c = '\x7d' then none
        else do
          let (found, after) ← field? rest
          return .text seen.reverse :: .field found :: (← pieces? [] fuel after)
    else pieces? (c :: seen) fuel rest

end LayoutPiece

/-- A part of a laid out record: text, a field, or a style that is put on or taken off. -/
inductive LayoutPart where
  | plain (c : Char)
  | field (f : LogField)
  /-- A sequence for a terminal; `none` is that of the record's level. -/
  | style (code : Option String)
  deriving DecidableEq, Repr

/-- The styles that are put on, the last one first: their names and sequences. -/
abbrev OpenStyles := List (List Char × Option String)

namespace LayoutPart

/-- The name in angle brackets, after the first of them, and what follows. -/
def tagName? (text : List Char) : Option (List Char × List Char) :=
  let body (text : List Char) : Option (List Char × List Char) :=
    let name := text.takeWhile fun c => c ≠ '<' && c ≠ '>' && !Text.isBlank c
    match text.drop name.length with
    | '>' :: rest => some (name, rest)
    | _ => none
  match text with
  | 'f' :: 'g' :: c :: rest | 'b' :: 'g' :: c :: rest =>
    if Text.isBlank c then
      (body rest).map fun (name, after) => (text.take 3 ++ name, after)
    else body text
  | _ => body text

/-- Whether a name in angle brackets takes a style off, the name and what follows. -/
def tag? : List Char → Option (Bool × List Char × List Char)
  | '/' :: rest => (tagName? rest).map (true, ·)
  | text => (tagName? text).map (false, ·)

/-- Takes the last style off; those still on are put on again. -/
def close? (name : List Char) (styles : OpenStyles) : Option (List LayoutPart × OpenStyles) :=
  match styles with
  | (last, _) :: rest =>
    if name.isEmpty || name = last then
      some (.style (some Style.reset) :: rest.reverse.map (.style ·.2), rest)
    else none
  | [] => none

/-- Puts a style on. -/
def open? (name : List Char) (styles : OpenStyles) : Option (List LayoutPart × OpenStyles) :=
  let level := name = "level".toList || name = "lvl".toList
  let code := Style.ofName? name
  if level || code.isSome then
    let code := if level then none else code
    some ([.style code], (name, code) :: styles)
  else none

/-- The parts of a stretch of text, `slashes` backslashes before it; the fuel bounds the
characters. -/
def ofText? : Nat → Nat → OpenStyles → List Char → Option (List LayoutPart × OpenStyles)
  | 0, _, _, _ => none
  | _, slashes, styles, [] => some (List.replicate slashes (.plain '\\'), styles)
  | fuel + 1, slashes, styles, c :: rest =>
    let before (count : Nat) : List LayoutPart := List.replicate count (.plain '\\')
    let plain (_ : Unit) : Option (List LayoutPart × OpenStyles) := do
      let (parts, styles) ← ofText? fuel 0 styles rest
      return (before slashes ++ .plain c :: parts, styles)
    if c = '\\' then ofText? fuel (slashes + 1) styles rest
    else if c = '<' then
      match tag? rest with
      | none => plain ()
      | some (closing, name, after) => do
        let shown := before (slashes / 2)
        if slashes % 2 = 1 then
          let text := (c :: rest).take (rest.length + 1 - after.length)
          let (parts, styles) ← ofText? fuel 0 styles after
          return (shown ++ text.map .plain ++ parts, styles)
        let (first, styles) ← if closing then close? name styles else open? name styles
        let (parts, styles) ← ofText? fuel 0 styles after
        return (shown ++ first ++ parts, styles)
    else plain ()

/-- The parts of pieces under some styles, which are all taken off at the end. -/
def ofPieces? : OpenStyles → List LayoutPiece → Option (List LayoutPart)
  | styles, [] => if styles.isEmpty then some [] else none
  | styles, .field f :: rest => (ofPieces? styles rest).map (.field f :: ·)
  | styles, .text chars :: rest => do
    let (parts, styles) ← ofText? (chars.length + 1) 0 styles chars
    return parts ++ (← ofPieces? styles rest)

/-- The parts of a format, if it is sound. -/
def ofFormat? (format : List Char) : Option (List LayoutPart) := do
  ofPieces? [] (← LayoutPiece.pieces? [] (format.length + 1) format)

end LayoutPart

/-- What a field may stand for. -/
inductive LogContent where
  | text (s : String)
  | whole (n : Nat)
  | level (l : LogLevel)
  /-- The extra things a record tells, which are its component. -/
  | extra (source : String)
  deriving DecidableEq, Repr

namespace LogContent

/-- What a record tells under a name; the time and the place of a record are not known here. -/
def ofName? (record : LogRecord) (name : String) : Option LogContent :=
  match name with
  | "message" => some (.text record.text)
  | "level" => some (.level record.level)
  | "extra" => some (.extra record.source)
  | "exception" | "time" | "elapsed" | "file" | "function" | "line" | "module" | "name"
  | "process" | "thread" => some (.text "")
  | _ => none

/-- A part that is named after a point. -/
def attribute? : LogContent → String → Option LogContent
  | .level l, "name" => some (.text l.name)
  | .level l, "no" => some (.whole l.severity)
  | .level l, "icon" => some (.text l.icon)
  | _, _ => none

/-- A part that is named in brackets: an extra thing, or a character by its place. -/
def item? : LogContent → List Char → Option LogContent
  | .extra source, key => if key = "mod_name".toList then some (.text source) else none
  | .text s, key =>
    if key.isEmpty || key.any (!·.isDigit) then none
    else (s.toList[(Padding.readWidth key).1.getD 0]?).map fun c => .text (String.singleton c)
  | _, _ => none

/-- The part at the end of a path of points and brackets; the fuel bounds its steps. -/
def at? : Nat → LogContent → List Char → Option LogContent
  | _, content, [] => some content
  | 0, _, _ => none
  | fuel + 1, content, '.' :: rest => do
    let name := rest.takeWhile fun c => c ≠ '.' && c ≠ '['
    at? fuel (← content.attribute? (String.ofList name)) (rest.drop name.length)
  | fuel + 1, content, '[' :: rest => do
    let (key, after) ← Text.cut? ']' rest
    at? fuel (← content.item? key) after
  | _, _, _ => none

/-- The whole content as text. -/
def shown : LogContent → String
  | .text s => s
  | .whole n => toString n
  | .level l =>
    "(name=" ++ Text.quote l.name ++ ", no=" ++ toString l.severity ++ ", icon=" ++
      Text.quote l.icon ++ ")"
  | .extra source => "\x7b'mod_name': " ++ Text.quote source ++ "\x7d"

/-- The content in a field. -/
def render? (content : LogContent) (f : LogField) : Option (List Char) := do
  let padding ← Padding.ofSpec? f.spec
  match f.conversion, content with
  | none, .text s => padding.text? s.toList
  | none, .whole n => padding.whole? n
  | none, .level l => padding.text? l.name.toList
  | none, .extra _ => if f.spec.isEmpty then some content.shown.toList else none
  | some 's', _ => padding.text? content.shown.toList
  | some 'r', .text s => padding.text? (Text.quote s).toList
  | some 'r', _ => padding.text? content.shown.toList
  | some _, _ => none

end LogContent

namespace LogField

/-- What stands in the field for a record. -/
def render? (record : LogRecord) (f : LogField) : Option (List Char) := do
  let name := f.name.takeWhile fun c => c ≠ '.' && c ≠ '['
  let content ← LogContent.ofName? record (String.ofList name)
  let path := f.name.drop name.length
  (← content.at? path.length path).render? f

end LogField

end QueryCache
