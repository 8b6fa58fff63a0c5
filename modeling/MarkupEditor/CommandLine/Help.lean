/-!
# Help for the command line
-/

namespace MarkupEditor.CommandLine

def programName : String := "htmlstorage"

def usage : String :=
  "usage: htmlstorage [-h] [--tag-color TAG_COLOR] [--quoted-color QUOTED_COLOR]\n"
  ++ "                   [--comment-color COMMENT_COLOR] [--log-file LOG_FILE]\n"
  ++ "                   [file]\n"

def help : String :=
  usage
  ++ "\nHTMLStorage - Terminal editor with live HTML highlighting\n"
  ++ "\npositional arguments:\n"
  ++ "  file                  File to open\n"
  ++ "\noptions:\n"
  ++ "  -h, --help            show this help message and exit\n"
  ++ "  --tag-color TAG_COLOR\n"
  ++ "                        Color of HTML tags (#RRGGBB)\n"
  ++ "  --quoted-color QUOTED_COLOR\n"
  ++ "                        Color of quoted values inside tags (#RRGGBB)\n"
  ++ "  --comment-color COMMENT_COLOR\n"
  ++ "                        Color of HTML comments (#RRGGBB)\n"
  ++ "  --log-file LOG_FILE   Log file path\n"

/-- What is written about a command line that cannot be used. -/
def complain (complaint : String) : String :=
  usage ++ programName ++ ": error: " ++ complaint ++ "\n"

end MarkupEditor.CommandLine
