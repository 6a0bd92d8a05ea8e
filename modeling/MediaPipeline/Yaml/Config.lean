import MediaPipeline.Config
import MediaPipeline.Process.Output
import MediaPipeline.Yaml.Node

/-!
Pipeline configurations from YAML text. Keys other than the settings are ignored, and settings that
are left out keep their standard values. Any scalar is taken as the text it is written as.
-/

namespace MediaPipeline

namespace PipelineConfig

open Yaml (Fault)

/-- Reads one setting from the members of a mapping; it may be given once, as a scalar. -/
def setting (d : Yaml.Document) (members : List (String × Yaml.Node)) (name standard : String) :
    Except Fault String :=
  match members.filter (·.1 == name) with
  | [] => .ok standard
  | [(_, value)] => match d.text? value with
    | some text => .ok text
    | none => .error .wrongShape
  | _ => .error .duplicateKey

def member (d : Yaml.Document) (m : Yaml.Node × Yaml.Node) : Except Fault (String × Yaml.Node) :=
  match d.text? m.1 with
  | some key => .ok (key, m.2)
  | none => .error .wrongShape

/-- The configuration a document describes; an empty one describes the standard configuration. -/
def ofDocument : Option Yaml.Document → Except Fault PipelineConfig
  | none => .ok {}
  | some d =>
    match d.root with
    | .scalar "" true => .ok {}
    | .mapping members => do
      let members ← members.mapM (member d)
      let standard : PipelineConfig := {}
      pure {
        program := ← setting d members "program" standard.program
        shell := ← setting d members "shell" standard.shell }
    | _ => .error .wrongShape

def ofYaml (text : String) : Except Fault PipelineConfig := do
  ofDocument (← Yaml.Document.ofText text)

/-- Why a configuration file could not be used. -/
inductive FileError where
  | io (failure : IoFailure)
  | invalid (fault : Fault)

def ofFile (content : Option (List UInt8)) : Except FileError PipelineConfig :=
  match content with
  | none => .error (.io .notFound)
  | some bytes => match Utf8.decode? bytes with
    | none => .error (.io .invalidUtf8)
    | some text => (ofYaml text).mapError .invalid

end PipelineConfig

end MediaPipeline
