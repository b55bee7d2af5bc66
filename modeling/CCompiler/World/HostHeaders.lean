import CCompiler.World.Files

/-!
# Directories of headers on the host

On a Mac the headers of the system stand in the resources of its compiler and in a development kit. Both
are found by asking a tool; what the tool does not know is left out.
-/
namespace CCompiler.HostHeaders

def isPath (text : String) : Bool := text.toList.any fun c => c == '/' || c == '\\'

/-- What the tool knows: the answer to each question that it can answer. -/
abbrev Tool := List String → Option String

/-- The answer to a question, without blanks around it. An empty one is none. -/
def answer? (tool : Tool) (question : List String) : Option String := do
  let text ← tool question
  let trimmed := String.ofList (Text.trimEnd (Text.trimFront text.toList))
  if trimmed = "" then none else some trimmed

structure Search where
  questions : List (List String) := []
  dirs : List String := []
deriving Repr, DecidableEq

def kitQuestion (kit : String) : List String := ["--sdk", kit, "--show-sdk-path"]

def resourceQuestion (kit : String) : List String := ["--sdk", kit, "clang", "-print-resource-dir"]

def distinct (texts : List String) : List String :=
  texts.foldl (fun seen text => if seen.contains text then seen else seen ++ [text]) []

/-- The directories on a Mac, where a root may name a kit or give its path. -/
def searchMac (tool : Tool) (root : String) : Search :=
  let isGiven := root ≠ "" && isPath root
  let kit := if isGiven || root = "" then "macosx" else root
  let kitPath := if isGiven then some root else answer? tool (kitQuestion kit)
  let include? (dir : Option String) (parts : List String) : List String :=
    (dir.map fun d => ((Path.ofText d).join ⟨"", parts⟩).text).toList
  { questions := (if isGiven then [] else [kitQuestion kit]) ++ [resourceQuestion kit]
    dirs := distinct (include? (answer? tool (resourceQuestion kit)) ["include"]
      ++ include? kitPath ["usr", "include"] ++ ["/usr/include"]) }

def search (tool : Tool) (platform root : String) : Search :=
  if platform = "darwin" then searchMac tool root else {}

end CCompiler.HostHeaders
