import MediaPipeline.Shell.Machine

/-!
The options of a shell: those that have a letter, and those that have a name only.
-/

namespace MediaPipeline.Shell.Builtin

def standardOptions : List (String × Option Char) := [
  ("errexit", some 'e'), ("noglob", some 'f'), ("ignoreeof", some 'I'), ("interactive", some 'i'),
  ("monitor", some 'm'), ("noexec", some 'n'), ("stdin", some 's'), ("xtrace", some 'x'),
  ("verbose", some 'v'), ("vi", some 'V'), ("emacs", some 'E'), ("noclobber", some 'C'),
  ("allexport", some 'a'), ("notify", some 'b'), ("nounset", some 'u'), ("privileged", some 'p'),
  ("nolog", none), ("debug", none)]

def extendedOptions : List (String × Option Char) := [
  ("allexport", some 'a'), ("braceexpand", some 'B'), ("emacs", none), ("errexit", some 'e'),
  ("errtrace", some 'E'), ("functrace", some 'T'), ("hashall", some 'h'), ("histexpand", some 'H'),
  ("history", none), ("ignoreeof", none), ("interactive-comments", none), ("keyword", some 'k'),
  ("monitor", some 'm'), ("noclobber", some 'C'), ("noexec", some 'n'), ("noglob", some 'f'),
  ("nolog", none), ("notify", some 'b'), ("nounset", some 'u'), ("onecmd", some 't'),
  ("physical", some 'P'), ("pipefail", none), ("posix", none), ("privileged", some 'p'),
  ("verbose", some 'v'), ("vi", none), ("xtrace", some 'x')]

def optionTable (d : Dialect) : List (String × Option Char) :=
  match d with
  | .standard => standardOptions
  | .extended => extendedOptions

def isOn (m : Machine) (name : String) : Bool :=
  match (optionTable m.dialect).lookup name with
  | some (some letter) => m.hasFlag letter
  | _ => m.hasOption name

/-- Turns an option on or off. -/
def setNamed (m : Machine) (name : String) (on : Bool) : Machine :=
  match (optionTable m.dialect).lookup name with
  | some (some letter) => m.setFlag on letter
  | _ =>
    let others := m.options.filter (· != name)
    { m with options := if on then name :: others else others }

/-- Options of the extended dialect that have names only, with those that are on. -/
def namedOptions : List (String × Bool) := [
  ("autocd", false), ("assoc_expand_once", false), ("cdable_vars", false), ("cdspell", false),
  ("checkhash", false), ("checkjobs", false), ("checkwinsize", true), ("cmdhist", true),
  ("compat31", false), ("compat32", false), ("compat40", false), ("compat41", false),
  ("compat42", false), ("compat43", false), ("compat44", false), ("complete_fullquote", true),
  ("direxpand", false), ("dirspell", false), ("dotglob", false), ("execfail", false),
  ("expand_aliases", false), ("extdebug", false), ("extglob", false), ("extquote", true),
  ("failglob", false), ("force_fignore", true), ("globasciiranges", true), ("globskipdots", true),
  ("globstar", false), ("gnu_errfmt", false), ("histappend", false), ("histreedit", false),
  ("histverify", false), ("hostcomplete", true), ("huponexit", false), ("inherit_errexit", false),
  ("interactive_comments", true), ("lastpipe", false), ("lithist", false),
  ("localvar_inherit", false), ("localvar_unset", false), ("login_shell", false),
  ("mailwarn", false), ("no_empty_cmd_completion", false), ("nocaseglob", false),
  ("nocasematch", false), ("noexpand_translation", false), ("nullglob", false),
  ("patsub_replacement", true), ("progcomp", true), ("progcomp_alias", false),
  ("promptvars", true), ("restricted_shell", false), ("shift_verbose", false),
  ("sourcepath", true), ("varredir_close", false), ("xpg_echo", false)]

/-- Names in one text, as the shell itself shows options that are on. -/
def joinedNames (names : List String) : Octets :=
  joinOctets [':'] (names.map String.toList)

def shownOptions (m : Machine) : Octets :=
  joinedNames (((optionTable m.dialect).map Prod.fst).filter (isOn m))

def shownNamedOptions (m : Machine) : Octets :=
  let own := (namedOptions.map Prod.fst).filter m.hasOption
  joinedNames (own.mergeSort fun a b => Files.inOrder a.toList b.toList)

end MediaPipeline.Shell.Builtin
