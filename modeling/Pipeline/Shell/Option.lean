/-!
# Options of a shell

The options that change how a shell runs commands, in the order in which they are shown.
-/

namespace Pipeline.Shell

/-- The options by name, with the letters of those that have one. -/
def shellOptions : List (String × Option Char) :=
  [("errexit", some 'e'), ("noglob", some 'f'), ("ignoreeof", some 'I'),
    ("interactive", some 'i'), ("monitor", some 'm'), ("noexec", some 'n'), ("stdin", some 's'),
    ("xtrace", some 'x'), ("verbose", some 'v'), ("vi", some 'V'), ("emacs", some 'E'),
    ("noclobber", some 'C'), ("allexport", some 'a'), ("notify", some 'b'), ("nounset", some 'u'),
    ("privileged", some 'p'), ("nolog", none), ("debug", none)]

/-- The letters of the options. -/
def optionLetters : List Char :=
  shellOptions.filterMap Prod.snd

end Pipeline.Shell
