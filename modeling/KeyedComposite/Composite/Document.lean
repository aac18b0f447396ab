import KeyedComposite.Numeric.Word

/-! # Composite documents

A composite is a multi-track edit that a renderer plays: a profile (frame size and rate),
a bin playlist, producers (media, colours, each with its filters), playlists of producer
entries, and one tractor that stacks tracks and joins them by transitions.

Every producer, filter, playlist, tractor and transition has an id; playlist entries and
tracks name producers or playlists by id, and the document names its root element the same
way. Whether these names resolve is checked by `Document.check`.
-/
namespace KeyedComposite.Composite

/-- Frame size, aspect ratios, rate and colour space of the composite. -/
structure Profile where
  description : String := ""
  width : Int := 0
  height : Int := 0
  progressive : Int := 0
  sampleAspectNum : Int := 0
  sampleAspectDen : Int := 0
  displayAspectNum : Int := 0
  displayAspectDen : Int := 0
  rateNum : Int := 0
  rateDen : Int := 0
  colorspace : Int := 0
  deriving Repr

/-- A named setting of a producer or filter. -/
structure Property where
  name : String
  value : String
  deriving Repr, DecidableEq

/-- A filter applied to a producer. -/
structure Filter where
  id : String := ""
  service : String := ""
  properties : List Property := []
  deriving Repr

/-- A playable unit; `inPoint` and `outPoint` are absent for an unbounded one. -/
structure Producer where
  id : String := ""
  inPoint : Option Int := none
  outPoint : Option Int := none
  properties : List Property := []
  filters : List Filter := []
  deriving Repr

/-- One stretch of a producer (or tractor) in a playlist, frames `inPoint..outPoint`. -/
structure Entry where
  producer : String := ""
  inPoint : Int := 0
  outPoint : Int := 0
  deriving Repr

/-- A sequence of entries; the labels are written only when not empty. -/
structure Playlist where
  id : String := ""
  title : String := ""
  audioChannels : String := ""
  folder : String := ""
  video : String := ""
  name : String := ""
  properties : List Property := []
  entries : List Entry := []
  deriving Repr

/-- A join of track `bTrack` onto track `aTrack`; the labels are written only when not
empty. -/
structure Transition where
  id : String := ""
  service : String := ""
  alwaysActive : String := ""
  sum : String := ""
  aTrack : Int := 0
  bTrack : Int := 0
  threads : String := ""
  deriving Repr

/-- The stack of tracks (each naming a producer or playlist) and their transitions. -/
structure Tractor where
  id : String := ""
  title : String := ""
  shotcut : String := ""
  inPoint : Int := 0
  outPoint : Int := 0
  tracks : List String := []
  transitions : List Transition := []
  deriving Repr

/-- A whole composite. -/
structure Document where
  numericLocale : String := ""
  version : String := ""
  title : String := ""
  root : String := ""
  profile : Profile := {}
  mainBin : Playlist := {}
  producers : List Producer := []
  playlists : List Playlist := []
  tractor : Tractor := {}
  deriving Repr

def Producer.property? (p : Producer) (name : String) : Option String :=
  (p.properties.find? (·.name == name)).map (·.value)

namespace Document

def producer? (d : Document) (id : String) : Option Producer := d.producers.find? (·.id == id)

def playlist? (d : Document) (id : String) : Option Playlist :=
  if d.mainBin.id = id then some d.mainBin else d.playlists.find? (·.id == id)

def totalFrames (d : Document) : Int := wrap64 (d.tractor.outPoint - d.tractor.inPoint + 1)

end Document

end KeyedComposite.Composite
