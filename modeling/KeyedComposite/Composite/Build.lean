import KeyedComposite.Composite.Check
import KeyedComposite.Composite.Ids
import KeyedComposite.Project.Interval
import KeyedComposite.Keying.Params
import KeyedComposite.Numeric.Fixed

/-! # Building the keyed composite

`repack` lays intervals end to end in list order, whatever their timeline offsets: the
`i`-th interval starts on the output frame where the previous one ended, runs for its own
whole-frame length, and reads the source media from its first source frame on.

`Builder.build` turns intervals into a three-track composite: a black background, the
replacement textures (a texture file, or a palette colour when there is none), and the
keyed source footage on top, each clip with a colour-select and an alpha filter. It fails
only on an unusable frame format or key colour; its two closing self-checks (the repacked
length against the sum of the lengths, and `Document.check`) stand as in the document
they guard.
-/
namespace KeyedComposite.Composite

/-- Where an interval lands on the rebuilt timeline and which source frames it plays. -/
structure Placement where
  index : Nat
  start : Int
  length : Int
  inPoint : Int
  outPoint : Int
  deriving Repr, DecidableEq

def repackFrom (f : FrameFormat) : Nat → Int → List Interval → List Placement × Int
  | _, cursor, [] => ([], cursor)
  | i, cursor, iv :: rest =>
    let length := iv.durationFrames f
    let inPoint := iv.mediaStartFrames f
    let (ps, total) := repackFrom f (i + 1) (wrap64 (cursor + length)) rest
    ({ index := i, start := cursor, length, inPoint,
       outPoint := wrap64 (inPoint + length - 1) } :: ps, total)

def repack (f : FrameFormat) (ivs : List Interval) : List Placement × Int := repackFrom f 0 0 ivs

/-- Why a composite cannot be built. -/
inductive BuildError where
  | format (e : FrameFormat.Error)
  | keyColor (e : Keying.ColorError)
  | lengthMismatch (total sum : Int)
  | composite (e : CompositeError)

namespace BuildError

def message : BuildError → String
  | .format e => e.message
  | .keyColor e => e.message
  | .lengthMismatch t s => "repacked length " ++ decimal t ++ " does not match interval sum " ++
    decimal s
  | .composite e => "build composite: " ++ e.message

def failureClass : BuildError → FailureClass
  | .composite e => e.failureClass
  | _ => .other

end BuildError

def defaultTitle : String := "Hoodie Replacement"

def defaultVersion : String := "7.22.0"

/-- The inputs of a build besides the intervals. -/
structure Builder where
  format : FrameFormat
  source : String
  keying : Keying.Params
  title : String := defaultTitle
  version : String := defaultVersion

namespace Builder

def profile (b : Builder) : Profile :=
  let f := b.format
  { description := decimal f.width ++ "x" ++ decimal f.height ++ " " ++ fixed 6 f.fps,
    width := f.width, height := f.height, progressive := 1,
    sampleAspectNum := 1, sampleAspectDen := 1,
    displayAspectNum := f.width, displayAspectDen := f.height,
    rateNum := f.rateNum, rateDen := f.rateDen, colorspace := 709 }

def hoodieProducer (b : Builder) (select : List Keying.Property) (p : Placement) : Producer :=
  let toProperty : Keying.Property → Property := fun (n, v) => { name := n, value := v }
  { id := Ids.hoodie p.index, inPoint := some p.inPoint, outPoint := some p.outPoint,
    properties := [⟨"resource", b.source⟩, ⟨"mlt_service", "avformat"⟩,
      ⟨"mlt_image_format", "rgba"⟩],
    filters := [
      { id := Ids.chroma p.index, service := "frei0r.select0r",
        properties := select.map toProperty ++ [⟨"threads", "0"⟩] },
      { id := Ids.alpha p.index, service := "frei0r.alpha0ps",
        properties := b.keying.alphaProperties.map toProperty }] }

end Builder

def textureProducer (p : Placement) (path : String) : Producer :=
  { id := Ids.texture p.index, inPoint := some 0, outPoint := some (wrap64 (p.length - 1)),
    properties := ⟨"length", decimal p.length⟩ ::
      if path ≠ "" then [⟨"resource", path⟩, ⟨"mlt_service", "avformat"⟩]
      else [⟨"resource", Ids.paletteAt p.index⟩, ⟨"mlt_service", "color"⟩,
        ⟨"mlt_image_format", "rgba"⟩] }

def blackProducer (total : Int) : Producer :=
  { id := Ids.black,
    properties := [⟨"resource", "0"⟩, ⟨"mlt_service", "color"⟩, ⟨"mlt_image_format", "rgba"⟩,
      ⟨"length", decimal total⟩, ⟨"set.test_audio", "0"⟩] }

def transitions : List Transition :=
  let mix (t : Int) : Transition :=
    { id := Ids.mix t, service := "mix", alwaysActive := "1", sum := "1", aTrack := 0,
      bTrack := t }
  let blend (t : Int) : Transition :=
    { id := Ids.blend t, service := "qtblend", aTrack := 0, bTrack := t, threads := "0" }
  [mix 1, mix 2, blend 1, blend 2]

namespace Builder

/-- The composite before its closing check. -/
def assemble (b : Builder) (select : List Keying.Property) (placements : List Placement)
    (total : Int) (textures : List String) : Document :=
  let title := if b.title = "" then defaultTitle else b.title
  let version := if b.version = "" then defaultVersion else b.version
  let lastFrame := wrap64 (total - 1)
  let bin : Playlist :=
    { id := Ids.mainBin, title, audioChannels := "2", folder := "1",
      properties := [⟨"xml_retain", "1"⟩] }
  let background : Playlist :=
    { id := Ids.background,
      entries := [{ producer := Ids.black, inPoint := 0, outPoint := lastFrame }] }
  let texturesTrack : Playlist :=
    { id := Ids.textures, video := "1", name := "V1 - Textures",
      entries := placements.map fun p =>
        { producer := Ids.texture p.index, inPoint := 0, outPoint := wrap64 (p.length - 1) } }
  let keyedTrack : Playlist :=
    { id := Ids.keyed, video := "1", name := "V2 - Hoodie (Keyed)",
      entries := placements.map fun p =>
        { producer := Ids.hoodie p.index, inPoint := p.inPoint, outPoint := p.outPoint } }
  { numericLocale := "C", version, title, root := Ids.mainBin, profile := b.profile,
    mainBin := bin,
    producers := placements.map (b.hoodieProducer select) ++
      placements.map (fun p => textureProducer p (textures.getD p.index "")) ++
      [blackProducer total],
    playlists := [background, texturesTrack, keyedTrack],
    tractor :=
      { id := Ids.tractor, title := "Shotcut version 25.01.25", shotcut := "1", inPoint := 0,
        outPoint := lastFrame, tracks := [Ids.background, Ids.textures, Ids.keyed],
        transitions } }

/-- The keyed composite of the intervals; `textures` runs beside them, a missing or empty
path standing for the palette colour. -/
def build (b : Builder) (ivs : List Interval) (textures : List String) :
    Except BuildError Document := do
  match b.format.validate with
  | .error e => throw (.format e)
  | .ok () => pure ()
  let select ← match b.keying.selectProperties with
    | .error e => throw (.keyColor e)
    | .ok s => pure s
  let (placements, total) := repack b.format ivs
  let sum := totalFrames b.format ivs
  if sum ≠ total then throw (.lengthMismatch total sum)
  let doc := b.assemble select placements total textures
  match doc.check with
  | .error e => throw (.composite e)
  | .ok _ => pure doc

end Builder

end KeyedComposite.Composite
