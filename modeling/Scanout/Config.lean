/-
Module: Scanout.Config
Purpose: Choosing a planning strategy for a display driver.
Imports: Scanout.Classifier, Scanout.Text.Blank
Main exports: Strategy, Strategy.forDriver, Strategy.parse, UnknownStrategy, Config,
  Config.forDriver
-/
import Scanout.Classifier
import Scanout.Text.Blank

namespace Scanout

/-- How layers are distributed between planes and the client target. -/
inductive Strategy where
  /-- Put as much on planes as the budget allows. -/
  | generic
  /-- Composite every layer on the GPU. -/
  | clientOnly
deriving DecidableEq, Repr, Inhabited

/-- The error of a strategy name that does not exist. -/
inductive UnknownStrategy where
  | unknown
deriving DecidableEq, Repr, Inhabited

def UnknownStrategy.message (_ : UnknownStrategy) : String :=
  "unknown composition strategy (expected \"generic\" or \"client\")"

namespace Strategy

/-- Drivers whose planes can be trusted with the client target only. -/
def targetOnlyDrivers : List String := ["kirin", "mediatek-drm"]

def forDriver (driver : String) : Strategy :=
  if targetOnlyDrivers.contains driver then clientOnly else generic

/-- Name of the strategy in settings. -/
def name : Strategy → String
  | generic => "generic"
  | clientOnly => "client"

/-- Name of the strategy in reports on a configuration. -/
def title : Strategy → String
  | generic => "Generic"
  | clientOnly => "ClientOnly"

/-- The strategy with a given name; blanks around the name do not matter. -/
def parse (text : String) : Except UnknownStrategy Strategy :=
  let trimmed := Text.trimBlank text
  if trimmed = "generic" then .ok generic
  else if trimmed = "client" then .ok clientOnly
  else .error .unknown

end Strategy

structure Config where
  strategy : Strategy := .generic
  rules : PlaneRules := {}
deriving DecidableEq, Repr, Inhabited

namespace Config

/-- Planning with the stock rules. -/
def generic : Config := {}

/-- Everything on the GPU. -/
def clientOnly : Config := { strategy := .clientOnly }

/-- The settings for a driver, unless an override names another strategy.  An override that names
no strategy is an error. -/
def forDriver (driver : String) (override : Option String) : Except UnknownStrategy Config :=
  match override with
  | none => .ok { strategy := .forDriver driver }
  | some text =>
      match Strategy.parse text with
      | .ok strategy => .ok { strategy }
      | .error problem => .error problem

/-- The same settings with layers that need scaling sent to the GPU, or not. -/
def withScalingOnGpu (config : Config) (scalingOnGpu : Bool) : Config :=
  { config with rules := { scalingOnGpu } }

/-- The settings as reports write them. -/
def text (config : Config) : String :=
  "PlannerConfig \x7b strategy: " ++ config.strategy.title ++
    ", capability: CapabilityPolicy \x7b force_gpu_for_scaling: " ++
    toString config.rules.scalingOnGpu ++ " \x7d \x7d"

end Config

end Scanout
