import ImpSyntax.Args.Parse
import ImpSyntax.Args.Usage

/-!
# The command line of the checker

```text
descentc check [-h] [--innermost-first] [-D] files [files ...]
descentc trace [-h] [--innermost-first] [-D] file
descentc lex [-h] (--text TEXT | --input INPUT)
```

`check` checks program files, `trace` prints the derivation of one file, `lex` lists the
tokens of a text or a file. `--innermost-first` prints error chains from the innermost
link, `-D` adds progress details on the error stream.
-/

namespace ImpSyntax.Cli

open Args

/-- The help option every parser has. -/
def helpOption : Argument :=
  ⟨"help", ["-h", "--help"], .help, false, none, [], "show this help message and exit"⟩

/-- `--innermost-first` -/
def innermostFirst : Argument :=
  ⟨"innermost_first", ["--innermost-first"], .flag, false, none, [],
    "print the error chain starting from the innermost rule"⟩

/-- `-D`, `--debug` -/
def debug : Argument :=
  ⟨"debug", ["-D", "--debug"], .flag, false, none, [], "print debug details to stderr"⟩

/-- The parser of `check`. -/
def checkParser : Parser :=
  ⟨"descentc check", "",
    [helpOption, ⟨"files", [], .list, true, none, [], "program source files"⟩, innermostFirst,
      debug], [], []⟩

/-- The parser of `trace`. -/
def traceParser : Parser :=
  ⟨"descentc trace", "",
    [helpOption, ⟨"file", [], .value, true, none, [], "program source file"⟩, innermostFirst,
      debug], [], []⟩

/-- The parser of `lex`: a text or an input file, one of them. -/
def lexParser : Parser :=
  ⟨"descentc lex", "",
    [helpOption, ⟨"text", ["--text"], .value, false, none, [], "program text given directly"⟩,
      ⟨"input", ["--input"], .value, false, none, [], "program source file"⟩],
    [⟨["text", "input"], true⟩], []⟩

/-- The top parser: a command, then what the command's parser reads. -/
def topParser : Parser :=
  ⟨"descentc", "descent syntax checker CLI",
    [helpOption, ⟨"cmd", [], .command, true, none, ["check", "trace", "lex"], ""⟩], [],
    [("check", "check program files for syntax errors"),
      ("trace", "print the derivation trace of one file"),
      ("lex", "tokenize input and list the tokens")]⟩

/-- **The checker's command line.** -/
def commandLine : CommandLine :=
  ⟨topParser, [("check", checkParser), ("trace", traceParser), ("lex", lexParser)]⟩

example : checkParser.usage =
    "usage: descentc check [-h] [--innermost-first] [-D] files [files ...]\n" ∧
    lexParser.usage = "usage: descentc lex [-h] (--text TEXT | --input INPUT)\n" ∧
    topParser.usage = "usage: descentc [-h] {check,trace,lex} ...\n" := by
  decide +kernel

end ImpSyntax.Cli
