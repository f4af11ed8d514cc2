import DevServer.Path
import DevServer.Source.Prologue

/-!
# Kinds of modules

A module runs on the server unless its first boundary directive is `use client`. Only files with a
script extension are modules.
-/

namespace DevServer.Source

/-- The rendering boundary a module declares. -/
inductive ModuleKind where
  | server
  | client
  /-- Server functions that the client calls. -/
  | action
  deriving DecidableEq, Repr

namespace ModuleKind

/-- The kind that one directive declares. -/
def ofDirective? : String → Option ModuleKind
  | "use client" => some client
  | "use server" => some action
  | _ => none

/-- The first boundary directive decides. -/
def ofSource (source : String) : ModuleKind :=
  ((directives source).findSome? ofDirective?).getD server

/-- Whether a change of such a module changes what the server renders. -/
def affectsServerOutput : ModuleKind → Bool
  | client => false
  | server | action => true

def name : ModuleKind → String
  | server => "server"
  | client => "client"
  | action => "action"

end ModuleKind

def scriptExtensions : List String := ["js", "jsx", "ts", "tsx", "mjs", "cjs", "mts", "cts"]

/-- Whether the path has the extension of a module. -/
def isScript (p : Path) : Bool :=
  match p.extension?.bind Text.decode? with
  | some ext => scriptExtensions.contains ext
  | none => false

end DevServer.Source
