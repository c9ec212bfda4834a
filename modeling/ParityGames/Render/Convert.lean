import ParityGames.Render.Graphviz
import ParityGames.Failure

/-!
# Drawings in SVG, PNG and PDF

SVG and PNG drawings come from the layout engine.  An SVG drawing then gets
a plain header: its view box is moved to the origin and the width and height
are taken from the view box, so that the drawing scales.  PDF is made from
the SVG drawing by the external `rsvg-convert` program, which may be
missing or may fail.
-/

namespace ParityGames

namespace Render

/-- The state of the external converter. -/
inductive Converter where
  /-- No converter is installed. -/
  | missing
  /-- A converter that answers `converted` and its arguments. -/
  | working
  /-- A converter that reports `cannot convert` and exits with status 3. -/
  | failing
  deriving Repr, DecidableEq, Inhabited

/-- The text of a missing converter for an export format. -/
def missingText (format : String) : String :=
  format ++ " export: rsvg-convert not found. Install with:\n  macOS:  brew install librsvg\n" ++
    "  Linux:  apt install librsvg2-bin"

/-- Runs the converter with arguments on an SVG drawing. -/
def Converter.run (c : Converter) (format : String) (args : List String) (_svg : ByteArray) :
    Except Failure ByteArray :=
  match c with
  | .missing => .error (.marked (missingText format) .converterMissing)
  | .working => .ok ("converted " ++ " ".intercalate args ++ "\n").toUTF8
  | .failing => .error (.plain "rsvg-convert: exit status 3: cannot convert\n")

/-- PDF from an SVG drawing. -/
def toPdf (c : Converter) (svg : ByteArray) : Except Failure ByteArray :=
  c.run "pdf" ["-f", "pdf"] svg

/-- PNG from an SVG drawing at a scale. -/
def toPng (c : Converter) (svg : ByteArray) (scale : Float) : Except Failure ByteArray :=
  c.run "png" ["-f", "png", "-z", Text.floatFixed scale 2] svg

/-- Reads a decimal number of digits and at most one point. -/
def decimalValue (s : String) : Option Float :=
  let cs := s.toList
  let (whole, rest) := (cs.takeWhile Char.isDigit, cs.dropWhile Char.isDigit)
  let (frac, rest) := match rest with
    | '.' :: r => (r.takeWhile Char.isDigit, r.dropWhile Char.isDigit)
    | r => ([], r)
  if !rest.isEmpty || (whole.isEmpty && frac.isEmpty) then none
  else
    let m := (whole ++ frac).foldl (fun n c => n * 10 + (c.toNat - 48)) 0
    some (Float.ofScientific m true frac.length)

/-- The four view box numbers of an SVG text, as texts. -/
def viewBoxOf (s : String) : Option (List String) :=
  match s.splitOn "viewBox=\"" with
  | _ :: after :: _ =>
    let body := after.takeWhile (· != '"')
    let parts := (body.toString.split Char.isWhitespace).toList.map (·.toString) |>.filter (!·.isEmpty)
    if parts.length == 4 && parts.all (·.all fun c => c.isDigit || c == '.') then some parts else none
  | _ => none

/-- Replaces every `<svg …>` tag of a text by `tag`. -/
def replaceSvgTags (s : String) (tag : String) : String :=
  let pieces := s.splitOn "<svg"
  match pieces with
  | [] => s
  | first :: rest =>
    first ++ String.join (rest.map fun p =>
      match p.splitOn ">" with
      | _ :: tail@(_ :: _) => tag ++ ">".intercalate tail
      | _ => "<svg" ++ p)

/-- Gives an SVG drawing the plain header of its view box. -/
def normalizeViewBox (svg : String) : String :=
  match viewBoxOf svg with
  | some [_, _, ws, hs] =>
    match decimalValue ws, decimalValue hs with
    | some w, some h =>
      if w == 0 || h == 0 then svg
      else
        let tag := s!"<svg xmlns=\"http://www.w3.org/2000/svg\" viewBox=\"0 0 {Text.floatFixed w 2} " ++
          s!"{Text.floatFixed h 2}\" width=\"{Text.floatFixed w 0}\" height=\"{Text.floatFixed h 0}\">"
        replaceSvgTags svg tag
    | _, _ => svg
  | _ => svg

/-- Lays out DOT text, or the refusal of the text. -/
def layout (dot : String) : Except Failure Graphviz.Graph :=
  (Graphviz.parse dot).mapError fun e => .plain ("parse DOT: " ++ e.message)

/-- The SVG drawing of DOT text. -/
def renderSvg (dot : String) : Except Failure ByteArray := do
  let g ← layout dot
  return (normalizeViewBox (Graphviz.svgDocument g)).toUTF8

/-- The PNG drawing of DOT text. -/
def renderPng (dot : String) : Except Failure ByteArray := do
  let g ← layout dot
  return Graphviz.pngImage g

/-- The PDF drawing of DOT text. -/
def renderPdf (c : Converter) (dot : String) : Except Failure ByteArray := do
  let svg ← renderSvg dot
  toPdf c svg

end Render

end ParityGames
