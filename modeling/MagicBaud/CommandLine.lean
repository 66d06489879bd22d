import MagicBaud.Config.Load

namespace MagicBaud

structure CommandLine where
  layer : Layer := Layer.empty
  config : Option String := none
  list : Bool := false
  verbose : Bool := false
  deriving DecidableEq

namespace CommandLine

/-- The layer of the file that is named, if one is. -/
def fileLayer (files : Files) (c : CommandLine) : Except Config.LoadError Layer :=
  match c.config with
  | some path => Config.load files path
  | none => .ok Layer.empty

/-- The command line stands over the file, and the file over the defaults. A file that cannot be
loaded leaves no settings, even if none of its values were needed. -/
def settings (files : Files) (c : CommandLine) : Except Config.LoadError Settings :=
  (c.fileLayer files).map fun file => (c.layer.or file).resolve

end CommandLine
end MagicBaud
