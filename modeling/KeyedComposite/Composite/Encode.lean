import KeyedComposite.Composite.Document
import KeyedComposite.Markup.Element

/-! # Writing a composite as markup

The root element `mlt` carries the numeric locale, version, title and root id, and holds,
in this order, the profile, the bin, the producers, the playlists and the tractor, so that
every producer is written before a playlist or track uses it.

Attributes come in a fixed order per element. Numbers are decimal. Playlist and
transition labels, and a producer's in and out points, are left out when empty or absent.
-/
namespace KeyedComposite.Composite

open Markup

/-- The attribute, unless its value is empty. -/
def optionalAttr (name value : String) : List (String × String) :=
  if value = "" then [] else [(name, value)]

def Property.toElement (p : Property) : Element := .mk "property" [("name", p.name)] p.value []

def Profile.toElement (p : Profile) : Element :=
  .empty "profile"
    [("description", p.description), ("width", decimal p.width), ("height", decimal p.height),
     ("progressive", decimal p.progressive),
     ("sample_aspect_num", decimal p.sampleAspectNum),
     ("sample_aspect_den", decimal p.sampleAspectDen),
     ("display_aspect_num", decimal p.displayAspectNum),
     ("display_aspect_den", decimal p.displayAspectDen),
     ("frame_rate_num", decimal p.rateNum), ("frame_rate_den", decimal p.rateDen),
     ("colorspace", decimal p.colorspace)]

def Filter.toElement (f : Filter) : Element :=
  .parent "filter" [("id", f.id), ("mlt_service", f.service)]
    (f.properties.map Property.toElement)

def Producer.toElement (p : Producer) : Element :=
  .parent "producer"
    ([("id", p.id)] ++ (p.inPoint.map fun i => ("in", decimal i)).toList ++
      (p.outPoint.map fun i => ("out", decimal i)).toList)
    (p.properties.map Property.toElement ++ p.filters.map Filter.toElement)

def Entry.toElement (e : Entry) : Element :=
  .empty "entry"
    [("producer", e.producer), ("in", decimal e.inPoint), ("out", decimal e.outPoint)]

def Playlist.toElement (p : Playlist) : Element :=
  .parent "playlist"
    ([("id", p.id)] ++ optionalAttr "title" p.title ++
      optionalAttr "shotcut:projectAudioChannels" p.audioChannels ++
      optionalAttr "shotcut:projectFolder" p.folder ++ optionalAttr "shotcut:video" p.video ++
      optionalAttr "shotcut:name" p.name)
    (p.properties.map Property.toElement ++ p.entries.map Entry.toElement)

def Transition.toElement (t : Transition) : Element :=
  .empty "transition"
    ([("id", t.id), ("mlt_service", t.service)] ++ optionalAttr "always_active" t.alwaysActive ++
      optionalAttr "sum" t.sum ++
      [("a_track", decimal t.aTrack), ("b_track", decimal t.bTrack)] ++
      optionalAttr "threads" t.threads)

def Tractor.toElement (t : Tractor) : Element :=
  .parent "tractor"
    ([("id", t.id)] ++ optionalAttr "title" t.title ++ optionalAttr "shotcut" t.shotcut ++
      [("in", decimal t.inPoint), ("out", decimal t.outPoint)])
    (.parent "multitrack" [] (t.tracks.map fun id => .empty "track" [("producer", id)]) ::
      t.transitions.map Transition.toElement)

namespace Document

def toElement (d : Document) : Element :=
  .parent "mlt"
    [("LC_NUMERIC", d.numericLocale), ("version", d.version), ("title", d.title),
     ("producer", d.root)]
    (d.profile.toElement :: d.mainBin.toElement ::
      (d.producers.map Producer.toElement ++ d.playlists.map Playlist.toElement ++
        [d.tractor.toElement]))

def encode (d : Document) : String := Markup.document d.toElement

end Document

end KeyedComposite.Composite
