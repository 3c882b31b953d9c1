import TrackerSearch.Proofs.Command.Ending
import TrackerSearch.Proofs.Config.Acceptance
import TrackerSearch.Proofs.Config.Refusal
import TrackerSearch.Proofs.FileTree
import TrackerSearch.Proofs.Yaml.Plain

/-!
# How the program ends

A program whose command line is read loads its configuration and runs the command. A configuration
that is refused with a line that tells why is misuse, and so is every expected failure of the
command. What is left escapes from the program: it is known which faults of the settings and of the
command do. What the library of the client makes of an environment is not known, only that the
program does not look after it; nor are the wordings that an output takes over from a library, only
that they have to be written as well. The words of the command line and the variables are texts, and
the files hold plain texts (`Surroundings.Plain`). A file may be closed to the program, but what a
directory holds can be seen (`FileTree`). The limits of the machine, such as its memory, the depth of
its stack, the length of a name or an output that is closed early, are left out.
-/
namespace TrackerSearch.Command

open Http

variable {words : List String} {i : Invocation} {s : Surroundings} {c : Config} {world : Network}
  {finish : Finish}

/-- The files around a program hold plain texts: no output could be made of halves of pairs, a node
in itself has no value here, and what is nested too deeply would not be read to its end. -/
def Surroundings.Plain (s : Surroundings) : Prop :=
  ∀ path text, s.files.readText path = .ok text → Yaml.Plain text

end TrackerSearch.Command
