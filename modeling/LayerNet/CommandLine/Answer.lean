import LayerNet.CommandLine.Commands
import LayerNet.Shell.Program

/-!
# The host of the command line

Requests are carried out for any host.  The command line program is one run of them on this one:
whatever it starts, it starts in a shell.
-/

namespace LayerNet.CommandLine

instance : Host :=
  Shell.host

end LayerNet.CommandLine
