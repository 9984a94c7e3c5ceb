import LspEndpoint.Program.Utility.Characters
import LspEndpoint.Program.Utility.Concatenation
import LspEndpoint.Program.Utility.Decision
import LspEndpoint.Program.Utility.Paths
import LspEndpoint.Program.Utility.Printing
import LspEndpoint.Program.Utility.Reckoning

/-!
The usual programs by their names.
-/
namespace LspEndpoint.Program

def utilities : List (String × Utility) :=
  [("true", .succeed), ("false", .fail), ("echo", .echo), ("printf", .printf), ("sleep", .sleep),
    ("yes", .yes), ("cat", .concatenate), ("head", .head), ("tail", .tail), ("tac", .reverseLines),
    ("wc", .wordCounts), ("sort", .sort), ("uniq", .unique), ("tee", .tee), ("tr", .translate), ("cut", .cut),
    ("basename", .basename), ("dirname", .dirname), ("pwd", .workingDirectory), ("printenv", .printSettings),
    ("touch", .touch), ("mkdir", .makeDirectories), ("rmdir", .removeDirectories), ("rm", .remove),
    ("cp", .copy), ("mv", .move), ("ls", .list), ("seq", .sequence), ("expr", .reckon),
    ("test", .decision false), ("[", .decision true)]

def utility? (name : Text) : Option Utility :=
  (utilities.find? fun u => Text.ofString u.1 = name).map Prod.snd

end LspEndpoint.Program
