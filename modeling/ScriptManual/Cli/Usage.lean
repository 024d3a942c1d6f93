import ScriptManual.Text.Basic

/-!
This module contains the texts that explain the command line.
-/

namespace ScriptManual

namespace Cli

def programName : Text := "optdoc".toList

def usage : Text :=
  Text.unlines <| List.map String.toList
    ["usage: optdoc [-h] [--format \x7bshell,markdown,html\x7d] [--output OUTPUT]",
      "              [--config CONFIG] [--allow-missing-options]",
      "              [--comment-marker COMMENT_MARKER] [--title TITLE]",
      "              [--log-file LOG_FILE]",
      "              script"]

def help : Text :=
  usage ++ Text.unlines (List.map String.toList
    ["",
      "Generate bash option parsing, or documentation, from a script's leading",
      "comment block.",
      "",
      "positional arguments:",
      "  script                Script whose leading comment block declares the",
      "                        options.",
      "",
      "options:",
      "  -h, --help            show this help message and exit",
      "  --format \x7bshell,markdown,html\x7d",
      "                        Output format (default: shell, or the config file's",
      "                        output_format).",
      "  --output OUTPUT       Write output to this path instead of stdout.",
      "  --config CONFIG       Optional JSON settings file.",
      "  --allow-missing-options",
      "                        Emit help-only output when the comment block has no",
      "                        Options: section.",
      "  --comment-marker COMMENT_MARKER",
      "                        Comment marker that starts help lines (default: #).",
      "  --title TITLE         Title for markdown/html output (default: the script's",
      "                        file name).",
      "  --log-file LOG_FILE   Write structured logs to this file."])

end Cli

end ScriptManual
