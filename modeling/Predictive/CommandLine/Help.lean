import Predictive.CommandLine.Arguments

/-!
# Usage and help

The texts about the command line, for lines of eighty columns.
-/

namespace Predictive

namespace CommandLine

/-- How the program is called. -/
def usage : String :=
  "usage: grammar-checker [-h] --filename FILENAME [--key KEY] [--first]\n" ++
  "                       [--follow] [--first_plus] [--check_first_plus]\n" ++
  "                       [--show_mappings] [--parser] [--target \x7bcpp,python\x7d]\n" ++
  "                       [--output PATH] [--protos PATH] [--no-color] [-v]\n"

/-- What the program does and what its flags are for. -/
def help : String :=
  usage ++ "\n" ++
  "Computes FIRST, FOLLOW and FIRST+ sets of a BNF grammar, checks it is LL(1)\n" ++
  "and generates a recursive-descent parser skeleton\n" ++
  "\n" ++
  "options:\n" ++
  "  -h, --help            show this help message and exit\n" ++
  "  --filename FILENAME   Grammar file to read\n" ++
  "  --key KEY             Symbol(s) to query: a name, a comma separated list, or\n" ++
  "                        'all'\n" ++
  "  --first               Print the FIRST set of each key\n" ++
  "  --follow              Print the FOLLOW set of each key\n" ++
  "  --first_plus          Print the FIRST+ sets of each key, colored by\n" ++
  "                        disjointness\n" ++
  "  --check_first_plus    Check every rule's FIRST+ sets are disjoint (LL(1))\n" ++
  "  --show_mappings       Print each FIRST+ set next to the production it\n" ++
  "                        selects\n" ++
  "  --parser              Generate a parser skeleton\n" ++
  "  --target \x7bcpp,python\x7d\n" ++
  "                        Language of the generated parser skeleton\n" ++
  "  --output PATH         Write the parser skeleton to PATH instead of stdout\n" ++
  "  --protos PATH         Write procedure prototypes to a new file at PATH\n" ++
  "  --no-color            Disable colored output\n" ++
  "  -v, --verbose         Be verbose\n"

end CommandLine

/-- What is shown for a command line that is refused. -/
def UsageError.report (e : UsageError) : String :=
  CommandLine.usage ++ "grammar-checker: error: " ++ e.message ++ "\n"

end Predictive
