import Phrasebook.Text.Quoted

/-!
What can be wrong with a given setting.
-/

set_option autoImplicit false
set_option relaxedAutoImplicit false

namespace Phrasebook.Settings

inductive Misfit where
  /-- A number or text that stands for no truth value. -/
  | noTruthValue
  /-- A value of a kind that never stands for a truth value. -/
  | notBool
  | notText
  | notPath
  /-- A text that names no policy for missing templates. -/
  | noPolicy (given : Text)
  deriving DecidableEq, Repr

structure Problem where
  name : Text
  misfit : Misfit
  deriving DecidableEq, Repr

def Misfit.explanation : Misfit → Text
  | noTruthValue => "bool_parsing: Input should be a valid boolean, unable to interpret input".toList
  | notBool => "bool_type: Input should be a valid boolean".toList
  | notText => "string_type: Input should be a valid string".toList
  | notPath => "path_type: Input is not a valid path for <class 'pathlib.Path'>".toList
  | noPolicy given =>
    "value_error: Value error, missing_template_fallback must be one of ('key', 'empty'), got ".toList ++
      given.quoted

def Problem.message (p : Problem) : Text := p.name ++ ':' :: ' ' :: p.misfit.explanation

def messages : List Problem → Text
  | [] => []
  | [p] => p.message
  | p :: ps => p.message ++ ';' :: ' ' :: messages ps

inductive Source where
  | environment
  | file
  deriving DecidableEq, Repr

def Source.name : Source → Text
  | environment => "EnvSettingsSource".toList
  | file => "DotEnvSettingsSource".toList

/-- Why settings are refused. -/
inductive Refusal where
  /-- Some values do not fit. -/
  | misfits (problems : List Problem)
  /-- A variable for several settings at once is not written as such. -/
  | unreadable (name : Text) (source : Source)
  deriving DecidableEq, Repr

def Refusal.message : Refusal → Text
  | misfits problems => messages problems
  | unreadable name source =>
    "error parsing value for field \"".toList ++ name ++ "\" from source \"".toList ++ source.name ++
      ['"']

end Phrasebook.Settings
