import KeyedComposite.Host.Programs
import KeyedComposite.Text.Blank

/-! # Checking the external tools

A requirement names an external tool, the command that runs it and what it is for.
Checking it trims the command and description, reports an empty command as not
configured and an unknown one as not found, and otherwise where it was found. The missing
tools are the unavailable ones that are not optional.
-/
namespace KeyedComposite.Host

/-- An external tool the program relies on. -/
structure Requirement where
  name : String
  command : String
  description : String
  optional : Bool

/-- Whether a tool is available. -/
structure ToolStatus where
  name : String
  command : String
  description : String
  optional : Bool
  available : Bool := false
  path : String := ""
  detail : String := ""

def defaultRequirements (ffmpeg melt : String) : List Requirement :=
  [{ name := "FFmpeg", command := ffmpeg, description := "Generates placeholder textures",
     optional := true },
   { name := "melt", command := melt, description := "Renders the MLT composite",
     optional := true }]

def Requirement.check (r : Requirement) : ToolStatus :=
  let command := Blank.trim r.command
  let status : ToolStatus :=
    { name := r.name, command, description := Blank.trim r.description, optional := r.optional }
  if command = "" then { status with detail := "command not configured" }
  else match lookPath command with
    | .error _ => { status with detail := "binary " ++ Quoted.quote command ++ " not found" }
    | .ok path => { status with available := true, path }

def missing (statuses : List ToolStatus) : List ToolStatus :=
  statuses.filter fun s => !s.available && !s.optional

end KeyedComposite.Host
