import KeyedComposite.Composite.Registry

/-! # Checking a composite's references

`Document.declarations` lists the ids a document declares, in the order a reader meets
them: the bin, each producer followed by its filters, the playlists, the tractor, its
transitions. `Document.check` declares them all, then requires, in this order:

1. the root names a producer, playlist or tractor;
2. each entry of the bin and of every playlist names a producer or the tractor;
3. each track names a producer or playlist;
4. each transition's two track numbers lie below the number of tracks.

The first failure is the answer; on success the registry of all ids is.
-/
namespace KeyedComposite.Composite

namespace Document

def declarations (d : Document) : List (String × Kind) :=
  (d.mainBin.id, .playlist) ::
    d.producers.flatMap (fun p => (p.id, .producer) :: p.filters.map (fun f => (f.id, .filter))) ++
    d.playlists.map (fun p => (p.id, .playlist)) ++
    (d.tractor.id, .tractor) :: d.tractor.transitions.map (fun t => (t.id, .transition))

def checkEntries (r : Registry) (p : Playlist) : Except CompositeError Unit :=
  p.entries.zipIdx.forM fun (e, i) => r.require (.entry p.id i) e.producer [.producer, .tractor]

def checkTransition (tracks : Nat) (t : Transition) : Except CompositeError Unit :=
  [t.aTrack, t.bTrack].forM fun i =>
    if i < 0 ∨ i ≥ tracks then .error (.trackOutOfRange t.id i tracks) else .ok ()

def check (d : Document) : Except CompositeError Registry := do
  let r ← Registry.declareAll {} d.declarations
  r.require .root d.root [.producer, .playlist, .tractor]
  (d.mainBin :: d.playlists).forM (checkEntries r)
  d.tractor.tracks.zipIdx.forM fun (t, i) => r.require (.track i) t [.producer, .playlist]
  d.tractor.transitions.forM (checkTransition d.tractor.tracks.length)
  return r

end Document

end KeyedComposite.Composite
