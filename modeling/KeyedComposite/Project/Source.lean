import KeyedComposite.Markup.Node
import KeyedComposite.Text.Url

/-! # The media file behind an asset

An asset element names its media in the `src` attribute of a `media-rep` child, as a URL.
`sourcePath` looks at the assets with the asked-for id in document order, passes over
those without a `media-rep` child, and decides by the first `media-rep` of the first one
that has it: the path of its URL, or, when the URL cannot be read, the source text with
its escapes decoded, or else the source text itself. An empty path counts as no path.
-/
namespace KeyedComposite.Project

open Markup

def sourceBytes (src : String) : List UInt8 :=
  match Url.path? src with
  | some p => p
  | none =>
    match Url.unescape? src with
    | some p => p
    | none => Utf8.encode src

def sourcePath (root : Node) (assetId : String) : String :=
  let assets := (root.find "asset").filter (fun a => a.attrOr "id" "" == assetId)
  match assets.findSome? (fun a => a.child? "media-rep") with
  | none => ""
  | some rep => Utf8.decodeLossy (sourceBytes (rep.attrOr "src" ""))

end KeyedComposite.Project
