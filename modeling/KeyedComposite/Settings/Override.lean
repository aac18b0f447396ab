import KeyedComposite.Settings.Basic

/-! # Overriding settings

Values given explicitly, on a command line for instance, replace the settings that were
loaded; settings given no value keep theirs. The result is finalized again by the caller.
-/
namespace KeyedComposite.Settings

/-- Values given explicitly for some settings. -/
structure Overrides where
  assetId : Option String := none
  clipName : Option String := none
  formatId : Option String := none
  sourceVideo : Option String := none
  output : Option String := none
  textureDir : Option String := none
  generator : Option String := none
  keyColor : Option String := none
  deltaH : Option Float := none
  deltaC : Option Float := none
  deltaI : Option Float := none
  slope : Option Float := none
  edge : Option Float := none
  render : Option Bool := none
  renderOutput : Option String := none
  crf : Option Int := none
  level : Option String := none

/-- The settings with the given values in place. -/
def override (s : Settings) (o : Overrides) : Settings :=
  { s with
    input.assetId := o.assetId.getD s.input.assetId,
    input.clipName := o.clipName.getD s.input.clipName,
    input.formatId := o.formatId.getD s.input.formatId,
    input.sourceVideo := o.sourceVideo.getD s.input.sourceVideo,
    output.path := o.output.getD s.output.path,
    output.textureDir := o.textureDir.getD s.output.textureDir,
    textures.generator := o.generator.getD s.textures.generator,
    keying.keyColor := o.keyColor.getD s.keying.keyColor,
    keying.deltaH := o.deltaH.getD s.keying.deltaH,
    keying.deltaC := o.deltaC.getD s.keying.deltaC,
    keying.deltaI := o.deltaI.getD s.keying.deltaI,
    keying.slope := o.slope.getD s.keying.slope,
    keying.edge := o.edge.getD s.keying.edge,
    render.enabled := o.render.getD s.render.enabled,
    render.output := o.renderOutput.getD s.render.output,
    render.crf := o.crf.getD s.render.crf,
    logging.level := o.level.getD s.logging.level }

end KeyedComposite.Settings
