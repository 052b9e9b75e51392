import Glitch.Effect.Param
/-!
Descriptions of effects and of their parameters, for listings and user interfaces. The core
never reads them.
-/
namespace Glitch

/-- The value type of a user-facing parameter. -/
inductive ParamKind where
  | float
  | int
  | bool
  | choice
  deriving DecidableEq, Repr

def ParamKind.name : ParamKind → String
  | .float => "float"
  | .int => "int"
  | .bool => "bool"
  | .choice => "choice"

/-- How a slider maps onto the parameter range. -/
inductive ParamCurve where
  | linear
  | exponential
  | logarithmic
  deriving DecidableEq, Repr

def ParamCurve.name : ParamCurve → String
  | .linear => "linear"
  | .exponential => "exponential"
  | .logarithmic => "logarithmic"

/-- One user-facing parameter. -/
structure ParamSpec where
  name : String
  kind : ParamKind
  label : String
  min : Option F32
  max : Option F32
  choices : List String
  default : ParamValue
  curve : ParamCurve
  unit : String
  deriving DecidableEq

namespace ParamSpec

def range (name label : String) (kind : ParamKind) (min max : F32) (default : ParamValue) : ParamSpec :=
  ⟨name, kind, label, some min, some max, [], default, .linear, ""⟩

def choice (name label : String) (choices : List String) (default : String) : ParamSpec :=
  ⟨name, .choice, label, none, none, choices, .string default, .linear, ""⟩

def withCurve (s : ParamSpec) (c : ParamCurve) : ParamSpec := { s with curve := c }

def withUnit (s : ParamSpec) (u : String) : ParamSpec := { s with unit := u }

end ParamSpec

/-- A listing entry for one effect. -/
structure EffectInfo where
  id : String
  name : String
  category : String
  description : String
  params : List ParamSpec

end Glitch
