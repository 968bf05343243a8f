import CharacterBuild.Document.Toml
import CharacterBuild.Files
import CharacterBuild.GameData.Constants
import CharacterBuild.GameData.Skill
import CharacterBuild.GameData.Template

namespace CharacterBuild

structure GameData (α : Type) where
  constants : Constants α
  skills : List (Skill α)
  templates : Templates α

inductive DataFault (α : Type) where
  | constants (fault : ConstantsFault)
  | skill (fault : SkillFault)
  | template (fault : TemplateFault α)

inductive DataError (α : Type) where
  | io (fault : FileFault)
  | parse
  | invalid (fault : DataFault α)

variable {α : Type} [Number α]

def DataFault.message : DataFault α → String
  | .constants fault => fault.message
  | .skill fault => fault.message
  | .template fault => fault.message

def DataError.invalidMessage (fault : DataFault α) : String :=
  "Configuration validation error: " ++ fault.message

def readData {β : Type} (read? : Value → Option β) (fault? : β → Option (DataFault α)) (text : String) :
    Except (DataError α) β :=
  match Toml.read? text >>= read? with
  | none => .error .parse
  | some b => match fault? b with
    | some fault => .error (.invalid fault)
    | none => .ok b

def Constants.read : String → Except (DataError α) (Constants α) :=
  readData Constants.ofValue? fun c => c.fault?.map .constants

def Skill.readList : String → Except (DataError α) (List (Skill α)) :=
  readData Skill.listOfValue? fun ss => (Skill.firstFault? [] ss).map .skill

def Templates.read : String → Except (DataError α) (Templates α) :=
  readData Templates.ofValue? fun ts => ts.fault?.map .template

namespace GameData

def skill? (d : GameData α) (name : String) : Option (Skill α) :=
  d.skills.find? (·.name = name)

def load (fs : Files) (directory : String) : Except (DataError α) (GameData α) := do
  let text (file : String) := (fs.read (Files.join directory file)).mapError DataError.io
  let constants ← match text "constants.toml" with
    | .error (.io .isDirectory) => .error (.io .isDirectory)
    | .error _ => .ok Constants.default
    | .ok s => Constants.read s
  let skills ← text "skills.toml" >>= Skill.readList
  let templates ← text "templates.toml" >>= Templates.read
  .ok ⟨constants, skills, templates⟩

end GameData
end CharacterBuild
