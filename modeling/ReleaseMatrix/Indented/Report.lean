import ReleaseMatrix.Indented.Display

namespace ReleaseMatrix.Indented

namespace Report

def isSpace (c : Char) : Bool := c = ' ' || c = '\t' || c = '\x0c'

/-- The signs below a line of a program that show a part of it, unless that is the whole line. -/
def marks? (line : String) (f : Frame) : Option String :=
  let cs := line.toList
  let lead := (cs.takeWhile isSpace).length
  let stop := (cs.reverse.dropWhile isSpace).length
  let isOneLine := f.span.endLine = f.span.line
  let last := if isOneLine then f.span.endColumn else stop
  let sign? := if isOneLine then f.sign?.filter fun s => s.line = f.span.line && s.endLine = f.span.line else none
  let width := last - f.span.column
  if f.span.line = 0 || width = 0 then none
  else if sign?.isNone && f.span.column ≤ lead && stop ≤ last then none
  else
    let shown := match sign? with
      | some s =>
        List.replicate (s.column - f.span.column) '~' ++ List.replicate (s.endColumn - s.column) '^' ++
          List.replicate (last - s.endColumn) '~'
      | none => List.replicate width '^'
    some (String.ofList (List.replicate (f.span.column - lead) ' ' ++ shown))

/-- A call that was under way, with its line of the program. -/
def frameText (file : String) (lines : List String) (f : Frame) : String :=
  let head := "  File \"" ++ f.file?.getD file ++ "\", line " ++ toString f.span.line ++ ", in " ++ f.name ++ "\n"
  match if f.file?.isSome then none else lines[f.span.line - 1]? with
  | none => head
  | some line =>
    let trimmed := String.ofList (line.toList.dropWhile isSpace)
    let trimmed := String.ofList (trimmed.toList.reverse.dropWhile isSpace).reverse
    if trimmed = "" then head
    else
      head ++ "    " ++ trimmed ++ "\n" ++ match marks? line f with
        | some marks => "    " ++ marks ++ "\n"
        | none => ""

/-- The calls that were under way. Where one repeats often, it is told how often. -/
def framesText (file : String) (lines : List String) (frames : List Frame) : String :=
  go (frames.map (frameText file lines)) none 0
where
  repeats (count : Nat) : String :=
    if count > 3 then
      "  [Previous line repeated " ++ toString (count - 3) ++ " more time" ++ (if count = 4 then "" else "s") ++ "]\n"
    else ""
  go : List String → Option String → Nat → String
    | [], _, count => repeats count
    | text :: rest, last?, count =>
      if last? = some text then
        (if count < 3 then text else "") ++ go rest last? (count + 1)
      else repeats count ++ text ++ go rest (some text) 1

/-- What is told about a program that cannot be read. -/
def faultText (file : String) (lines : List String) (fault : ReadFault) : String :=
  let head := "  File \"" ++ file ++ "\", line " ++ toString fault.span.line ++ "\n"
  let body := match lines[fault.span.line - 1]? with
    | none => ""
    | some line =>
      let lead := (line.toList.takeWhile isSpace).length
      let trimmed := String.ofList (line.toList.dropWhile isSpace)
      let width := if fault.kind = "IndentationError" then 1
        else if fault.span.endLine = fault.span.line then max 1 (fault.span.endColumn - fault.span.column)
        else max 1 (line.length - fault.span.column)
      if fault.message = "unexpected indent" then "    " ++ trimmed ++ "\n"
      else "    " ++ trimmed ++ "\n" ++ "    " ++
        String.ofList (List.replicate (fault.span.column - lead) ' ' ++ List.replicate width '^') ++ "\n"
  head ++ body ++ fault.kind ++ ": " ++ fault.message ++ "\n"

end Report

namespace RunM

variable (r : Runner)

/-- What is told about an error that nothing is done about, after the errors that it came from. -/
def account : Nat → Value → RunM String
  | 0, _ => pure ""
  | n + 1, error => do
    match error with
    | .object i =>
      match ← objectAt i with
      | .trouble t =>
        let m ← machine
        let before ← match t.cause?, t.context? with
          | some .none, _ => pure ""
          | some cause, _ =>
            pure ((← account n cause) ++ "\nThe above exception was the direct cause of the following exception:\n\n")
          | none, some context =>
            if context.isSame error then pure ""
            else
              pure ((← account n context) ++
                "\nDuring handling of the above exception, another exception occurred:\n\n")
          | none, none => pure ""
        let kind ← nameOfKind t.kind
        let said ← textOf r error
        let shown := if said = "" then kind else kind ++ ": " ++ said
        pure (before ++ "Traceback (most recent call last):\n" ++ Report.framesText m.file m.lines t.trace ++
          shown ++ "\n")
      | _ => pure ""
    | _ => pure ""

end RunM

end ReleaseMatrix.Indented
