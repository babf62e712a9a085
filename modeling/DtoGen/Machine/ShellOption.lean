import DtoGen.Machine.Script

namespace DtoGen.ShellOption

def plainNames : List (String × Char) :=
  [ ("errexit", 'e'), ("noglob", 'f'), ("ignoreeof", 'I'), ("interactive", 'i'), ("monitor", 'm'),
    ("noexec", 'n'), ("stdin", 's'), ("xtrace", 'x'), ("verbose", 'v'), ("vi", 'V'), ("emacs", 'E'),
    ("noclobber", 'C'), ("allexport", 'a'), ("notify", 'b'), ("nounset", 'u'), ("nolog", 'N'),
    ("debug", 'D') ]

/-- Letters that no option has stand for names without a letter. -/
def extendedNames : List (String × Char) :=
  [ ("allexport", 'a'), ("braceexpand", 'B'), ("emacs", '1'), ("errexit", 'e'), ("errtrace", 'E'),
    ("functrace", 'T'), ("hashall", 'h'), ("histexpand", 'H'), ("history", '2'),
    ("ignoreeof", '3'), ("interactive-comments", '4'), ("keyword", 'k'), ("monitor", 'm'),
    ("noclobber", 'C'), ("noexec", 'n'), ("noglob", 'f'), ("nolog", '5'), ("notify", 'b'),
    ("nounset", 'u'), ("onecmd", 't'), ("physical", 'P'), ("pipefail", 'o'), ("posix", '6'),
    ("privileged", 'p'), ("verbose", 'v'), ("vi", '7'), ("xtrace", 'x') ]

def names (dialect : Dialect) : List (String × Char) :=
  match dialect with
  | .plain => plainNames
  | .extended => extendedNames

/-- Letters that can be written, in the order in which they are shown. -/
def letterOrder : Dialect → List Char
  | .plain => "efIimnsxvVECabu".toList
  | .extended => "abefhkmnptuvxBCEHPTcs".toList

def isLetter (dialect : Dialect) (letter : Char) : Bool :=
  (letterOrder dialect).contains letter

def shown (dialect : Dialect) (options : List Char) : String :=
  String.ofList ((letterOrder dialect).filter options.contains)

/-- The letters that are on when a script starts. Names that are on from the start come along. -/
def start (dialect : Dialect) : List Char :=
  match dialect with
  | .plain => []
  | .extended => ['h', 'B', '4']

/-- Options that only have names, and whether they are on from the start. -/
def settings : List (String × Bool) :=
  [ ("assoc_expand_once", false), ("autocd", false), ("cdable_vars", false), ("cdspell", false),
    ("checkhash", false), ("checkjobs", false), ("checkwinsize", true), ("cmdhist", true),
    ("compat31", false), ("compat32", false), ("compat40", false), ("compat41", false),
    ("compat42", false), ("compat43", false), ("compat44", false), ("complete_fullquote", true),
    ("direxpand", false), ("dirspell", false), ("dotglob", false), ("execfail", false),
    ("expand_aliases", false), ("extdebug", false), ("extglob", false), ("extquote", true),
    ("failglob", false), ("force_fignore", true), ("globasciiranges", true), ("globskipdots", true),
    ("globstar", false), ("gnu_errfmt", false), ("histappend", false), ("histreedit", false),
    ("histverify", false), ("hostcomplete", true), ("huponexit", false), ("inherit_errexit", false),
    ("interactive_comments", true), ("lastpipe", false), ("lithist", false),
    ("localvar_inherit", false), ("localvar_unset", false), ("login_shell", false),
    ("mailwarn", false), ("no_empty_cmd_completion", false), ("nocaseglob", false),
    ("nocasematch", false), ("noexpand_translation", false), ("nullglob", false),
    ("patsub_replacement", true), ("progcomp", true), ("progcomp_alias", false),
    ("promptvars", true), ("restricted_shell", false), ("shift_verbose", false),
    ("sourcepath", true), ("varredir_close", false), ("xpg_echo", false) ]

def startSettings : List String :=
  (settings.filter Prod.snd).map Prod.fst

end DtoGen.ShellOption
