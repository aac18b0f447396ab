import KeyedComposite.Markup.Node
import KeyedComposite.Time.FrameFormat
import KeyedComposite.Numeric.NumberError

/-! # The video format of an edit project

A project names its video formats in `format` elements. `formatOf` reads the first one,
anywhere in the tree, whose `id` is the one asked for (the empty id means `r1`), starting
from the standard format: `width` and `height` are decimal words, and `frameDuration` is
a time whose inverse becomes the frame rate. An absent element or attribute keeps the
standard value.

Reading stops at the first bad attribute, in the order width, height, frame duration.
The format is then returned as it stood, with the failed number stored first: zero for a
malformed number, the nearest bound for one out of range.
-/
namespace KeyedComposite.Project

open Markup

/-- Why a format element cannot be read. -/
inductive FormatError where
  | width (id text : String) (cause : NumberError)
  | height (id text : String) (cause : NumberError)
  | duration (id : String) (cause : FrameFormat.Error)

def FormatError.message : FormatError → String
  | .width id t e => "format " ++ id ++ ": width " ++ Quoted.quote t ++ ": " ++ e.message
  | .height id t e => "format " ++ id ++ ": height " ++ Quoted.quote t ++ ": " ++ e.message
  | .duration id e => "format " ++ id ++ ": " ++ e.message

def defaultFormatId : String := "r1"

/-- The format with the given id, and the first error met while reading it. -/
def formatOf (root : Node) (id : String) : FrameFormat × Option FormatError :=
  let id := if id = "" then defaultFormatId else id
  let f := FrameFormat.standard
  match (root.find "format").find? (fun n => n.attrOr "id" "" == id) with
  | none => (f, none)
  | some node =>
    let (f, widthError) := match node.attr? "width" with
      | none => (f, none)
      | some v =>
        let (w, e) := readWord v
        ({ f with width := w }, e.map (FormatError.width id v))
    match widthError with
    | some e => (f, some e)
    | none =>
      let (f, heightError) := match node.attr? "height" with
        | none => (f, none)
        | some v =>
          let (h, e) := readWord v
          ({ f with height := h }, e.map (FormatError.height id v))
      match heightError with
      | some e => (f, some e)
      | none =>
        match node.attr? "frameDuration" with
        | none => (f, none)
        | some v =>
          match f.withFrameDuration v with
          | .ok g => (g, none)
          | .error e => (f, some (.duration id e))

end KeyedComposite.Project
