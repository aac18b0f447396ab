import KeyedComposite.Cli.Command
import KeyedComposite.Keying.Params
import KeyedComposite.Project.Extract
import KeyedComposite.Project.Format

/-! # The commands of the tool

The tool `keyswap` has five commands: `convert` runs a conversion, `inspect` lists the
keyed clips of a project, `doctor` checks the external programs, and `config init` and
`config show` write a sample settings file and print the settings in effect. `help`
shows the help of any command and `completion` groups the shell completion scripts,
which call the hidden command `__complete` for the candidates of a partial command line.
Every command reads the persistent flags `--config` (`-c`), the settings file, and
`--log-level`, which overrides the log level of the settings.
-/
namespace KeyedComposite.Cli

def textFlag (name usage default : String) (shorthand : String := "") : Flag :=
  { name, shorthand, usage, kind := .text default }

def switchFlag (name usage : String) : Flag := { name, usage, kind := .switch false }

def realFlag (name usage : String) (default : Float) : Flag := { name, usage, kind := .real default }

def configFlag : Flag := textFlag "config" "Configuration file path" "" "c"

def logLevelFlag : Flag :=
  textFlag "log-level" "Override logging.level (debug, info, warn, error)" ""

def assetIdFlag : Flag :=
  textFlag "asset-id" "FCPXML asset id of the keyed footage" Project.defaultAssetId

def clipNameFlag : Flag := textFlag "clip-name" "Clip name to match" Project.defaultClipName

def formatIdFlag : Flag := textFlag "format-id" "Format resource id" Project.defaultFormatId

def rootCommand : Command :=
  { path := [], use := "keyswap",
    short := "Swap chroma-keyed footage from an FCPXML project into an MLT composite",
    long := String.join [
      "keyswap reads a Final Cut Pro XML project, finds every clip of the keyed\n",
      "source asset, and writes a Shotcut/melt MLT project that lays those clips\n",
      "end to end over replacement textures with a chroma key applied."],
    persistent := [configFlag, logLevelFlag] }

def convertCommand : Command :=
  { path := ["convert"], use := "convert <project.fcpxml>",
    short := "Build an MLT composite from an FCPXML project",
    long := String.join [
      "Extract the keyed clips from an FCPXML project, generate replacement textures,\n",
      "and write an MLT project with the clips laid end to end over the textures.\n",
      "With --render the project is then rendered through melt."],
    examples := String.join [
      "  keyswap convert Info.fcpxml -o hoodie.mlt\n",
      "  keyswap convert Info.fcpxml --generator none --source-video ~/footage/A001.mov\n",
      "  keyswap convert Info.fcpxml --edge normal --delta-i 0.7 --render --render-output final.mp4"],
    args := .exactly 1,
    flags := [
      textFlag "output" "Output MLT path" "hoodie.mlt" "o",
      textFlag "output-dir" "Directory for generated textures" "./textures",
      switchFlag "dry-run" "Parse and list clips without writing anything",
      textFlag "generator" "Texture generator (placeholder, none)" "placeholder",
      textFlag "source-video" "Override the source video path" "",
      assetIdFlag, clipNameFlag, formatIdFlag,
      textFlag "key-color" "Key color as #rrggbb" Keying.Params.standard.keyColor,
      realFlag "delta-h" "Hue delta" Keying.Params.standard.deltaH,
      realFlag "delta-c" "Chroma delta" Keying.Params.standard.deltaC,
      realFlag "delta-i" "Intensity delta" Keying.Params.standard.deltaI,
      realFlag "slope" "Edge slope" Keying.Params.standard.slope,
      { name := "edge", usage := "Edge mode: hard, fat, normal, thin, slope or a raw value",
        kind := .mode .edge Keying.Params.standard.edge },
      switchFlag "render" "Render the result with melt",
      textFlag "render-output" "Rendered media path" "output.mp4",
      switchFlag "no-progress" "Disable the texture progress bar"] }

def inspectCommand : Command :=
  { path := ["inspect"], use := "inspect <project.fcpxml>",
    short := "List the keyed clips found in an FCPXML project",
    long := String.join [
      "Parse the project and print every matching clip in media start order with\n",
      "frame positions at the project frame rate. Nothing is written."],
    args := .exactly 1,
    flags := [assetIdFlag, clipNameFlag, formatIdFlag] }

def doctorCommand : Command :=
  { path := ["doctor"], use := "doctor", short := "Check that ffmpeg and melt are installed" }

def configCommand : Command :=
  { path := ["config"], use := "config", short := "Manage the keyswap configuration file",
    runnable := false }

def configInitCommand : Command :=
  { path := ["config", "init"], use := "init", short := "Write a sample configuration file",
    flags := [
      textFlag "path" "Destination path (default ~/.config/keyswap/config.toml)" "",
      switchFlag "overwrite" "Replace an existing file"] }

def configShowCommand : Command :=
  { path := ["config", "show"], use := "show", short := "Print the effective configuration" }

def helpCommand : Command :=
  { path := ["help"], use := "help [command]", short := "Help about any command",
    long := String.join [
      "Help provides help for any command in the application.\n",
      "Simply type keyswap help [path to command] for full details."],
    completer := .commandNames }

def completionCommand : Command :=
  { path := ["completion"], use := "completion",
    short := "Generate the autocompletion script for the specified shell",
    long := String.join [
      "Generate the autocompletion script for keyswap for the specified shell.\n",
      "See each sub-command's help for details on how to use the generated script.\n"],
    args := .none, runnable := false, completer := .noFiles }

def noDescriptions : Flag := switchFlag "no-descriptions" "disable completion descriptions"

def bashCommand : Command :=
  { path := ["completion", "bash"], use := "bash",
    short := "Generate the autocompletion script for bash",
    long := String.join [
      "Generate the autocompletion script for the bash shell.\n",
      "\n",
      "This script depends on the 'bash-completion' package.\n",
      "If it is not installed already, you can install it via your OS's package manager.\n",
      "\n",
      "To load completions in your current shell session:\n",
      "\n",
      "\tsource <(keyswap completion bash)\n",
      "\n",
      "To load completions for every new session, execute once:\n",
      "\n",
      "#### Linux:\n",
      "\n",
      "\tkeyswap completion bash > /etc/bash_completion.d/keyswap\n",
      "\n",
      "#### macOS:\n",
      "\n",
      "\tkeyswap completion bash > $(brew --prefix)/etc/bash_completion.d/keyswap\n",
      "\n",
      "You will need to start a new shell for this setup to take effect.\n"],
    args := .none, flags := [noDescriptions], bareUseLine := true, completer := .noFiles }

def zshCommand : Command :=
  { path := ["completion", "zsh"], use := "zsh",
    short := "Generate the autocompletion script for zsh",
    long := String.join [
      "Generate the autocompletion script for the zsh shell.\n",
      "\n",
      "If shell completion is not already enabled in your environment you will need\n",
      "to enable it.  You can execute the following once:\n",
      "\n",
      "\techo \"autoload -U compinit; compinit\" >> ~/.zshrc\n",
      "\n",
      "To load completions in your current shell session:\n",
      "\n",
      "\tsource <(keyswap completion zsh)\n",
      "\n",
      "To load completions for every new session, execute once:\n",
      "\n",
      "#### Linux:\n",
      "\n",
      "\tkeyswap completion zsh > \"$\x7bfpath[1]\x7d/_keyswap\"\n",
      "\n",
      "#### macOS:\n",
      "\n",
      "\tkeyswap completion zsh > $(brew --prefix)/share/zsh/site-functions/_keyswap\n",
      "\n",
      "You will need to start a new shell for this setup to take effect.\n"],
    args := .none, flags := [noDescriptions], bareUseLine := true, completer := .noFiles }

def fishCommand : Command :=
  { path := ["completion", "fish"], use := "fish",
    short := "Generate the autocompletion script for fish",
    long := String.join [
      "Generate the autocompletion script for the fish shell.\n",
      "\n",
      "To load completions in your current shell session:\n",
      "\n",
      "\tkeyswap completion fish | source\n",
      "\n",
      "To load completions for every new session, execute once:\n",
      "\n",
      "\tkeyswap completion fish > ~/.config/fish/completions/keyswap.fish\n",
      "\n",
      "You will need to start a new shell for this setup to take effect.\n"],
    args := .none, flags := [noDescriptions], bareUseLine := true, completer := .noFiles }

def powershellCommand : Command :=
  { path := ["completion", "powershell"], use := "powershell",
    short := "Generate the autocompletion script for powershell",
    long := String.join [
      "Generate the autocompletion script for powershell.\n",
      "\n",
      "To load completions in your current shell session:\n",
      "\n",
      "\tkeyswap completion powershell | Out-String | Invoke-Expression\n",
      "\n",
      "To load completions for every new session, add the output of the above command\n",
      "to your powershell profile.\n"],
    args := .none, flags := [noDescriptions], bareUseLine := true, completer := .noFiles }

def tool : Tree :=
  { commands := [rootCommand, convertCommand, inspectCommand, doctorCommand, configCommand,
      configInitCommand, configShowCommand, helpCommand, completionCommand, bashCommand,
      zshCommand, fishCommand, powershellCommand] }

/-- The hidden command the completion scripts call, under `__complete`, or
`__completeNoDesc` for candidates without descriptions. Its words are the command line
being completed, the last one the word under the cursor. -/
def requestCommand : Command :=
  { path := ["__complete"], use := "__complete [command-line]", aliases := ["__completeNoDesc"],
    short := "Request shell completion choices for the specified command-line",
    long := String.join [
      "__complete is a special command that is used by the shell completion logic\n",
      "to request completion choices for the specified command-line."],
    args := .atLeast 1, hidden := true, readsFlags := false, bareUseLine := true }

/-- The command tree with the request command; it is there only for a command line that
calls it, so that no other command line sees it. -/
def toolWithRequest : Tree := { commands := tool.commands ++ [requestCommand] }

end KeyedComposite.Cli
