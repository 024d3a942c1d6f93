import ScriptManual.Shell.Dispatch
import ScriptManual.Shell.Literal

/-!
This module contains the script that is generated from a manual: the help text, the option table with
its accessor, and the commands that parse the arguments of the script.
-/

namespace ScriptManual

namespace Shell

def helpName : Text := "HELP".toList

def tokensName : Text := "OPTDOC_ARGV".toList

def accessor : Text :=
  Text.join ['\n'] <| List.map String.toList
    ["opt() \x7b",
      "    local IFS=' '",
      "    case $# in",
      "        0)",
      "            local -a keys",
      "            mapfile -t keys < <(printf '%s\\n' \"$\x7b!OPTIONS[@]\x7d\" | LC_ALL=C sort)",
      "            printf '%s\\n' \"$\x7bkeys[*]\x7d\"",
      "            ;;",
      "        1)",
      "            if [ -n \"$\x7bOPTIONS[$\x7b1\x7dvalue]+set\x7d\" ]; then",
      "                printf '%s\\n' \"$\x7bOPTIONS[$\x7b1\x7dvalue]\x7d\"",
      "            elif [ -z \"$\x7bOPTIONS[$\x7b1\x7dargument]+set\x7d\" ]; then",
      "                printf '%s\\n' false",
      "            fi",
      "            ;;",
      "        2)",
      "            printf '%s\\n' \"$\x7bOPTIONS[$\x7b1\x7d$\x7b2\x7d]-\x7d\"",
      "            ;;",
      "        *)",
      "            local key=\"$\x7b1\x7d$\x7b2\x7d\"",
      "            shift 2",
      "            OPTIONS[$key]=\"$*\"",
      "            ;;",
      "    esac",
      "\x7d"]

inductive Statement where
  | assignHelp (help : Text)
  | declareTable
  | assignField (key text : Text)
  | defineAccessor
  | tokenize (shorts longs : Text)
  | setArguments
  | dispatch (loop : Loop)
  deriving Repr, DecidableEq

def Statement.write : Statement → Text
  | .assignHelp help => helpName ++ '=' :: Literal.write help
  | .declareTable => "declare -gA ".toList ++ tableName ++ "=()".toList
  | .assignField key text => assignment key (Literal.write text)
  | .defineAccessor => accessor
  | .tokenize shorts longs =>
    tokensName ++ "=$(getopt -o ".toList ++ Literal.write shorts ++ " -l ".toList
      ++ Literal.write longs ++ " -n \"$0\" -- \"$@\") || exit 1".toList
  | .setArguments => "eval set -- \"$".toList ++ tokensName ++ ['"']
  | .dispatch loop => loop.write

/--
The statements of the script that is generated from a manual. The table is filled before the
arguments are parsed, and the accessor is there as soon as the table is.
-/
def statements (m : Manual) : List Statement :=
  [.assignHelp m.help, .declareTable]
    ++ m.options.flatMap (fun o =>
      o.populated.map fun (f, text) => .assignField (Table.key o.short f.name) text)
    ++ [.defineAccessor, .tokenize (Getopt.shortList m.options) (Getopt.longList m.options),
      .setArguments, .dispatch (.ofManual m)]

def script (m : Manual) : Text :=
  Text.join ['\n'] ((statements m).map Statement.write) ++ ['\n']

end Shell

end ScriptManual
