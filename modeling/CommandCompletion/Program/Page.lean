import CommandCompletion.Text.Quoted

namespace CommandCompletion.Program

-- An option, the name of its value if it takes one, and what it is for.
structure OptionForm where
  name : String
  value : Option String := none
  about : String
deriving DecidableEq, Repr

-- What can be asked for at one place of the command line.
structure Page where
  command : String
  arguments : String
  about : List String
  options : List OptionForm := []
  commands : List (String × String) := []
deriving DecidableEq, Repr

namespace Page

def helpOption : OptionForm where
  name := "--help"
  about := "Show this message and exit."

def allOptions (page : Page) : List OptionForm :=
  page.options ++ [helpOption]

def usage (page : Page) : String :=
  "Usage: " ++ page.command ++ " " ++ page.arguments

def optionLine (form : OptionForm) : String :=
  "  " ++ form.name ++ (form.value.map (" " ++ ·)).getD "" ++ "  " ++ form.about

def commandLine (entry : String × String) : String :=
  "  " ++ entry.1 ++ "  " ++ entry.2

def help (page : Page) : List String :=
  [page.usage, ""] ++ page.about.map ("  " ++ ·) ++ ["", "Options:"] ++
    page.allOptions.map optionLine ++
    if page.commands.isEmpty then [] else "" :: "Commands:" :: page.commands.map commandLine

def complete : Page where
  command := "cli complete"
  arguments := "[OPTIONS] [LINE]"
  about :=
    ["Show completions for LINE (the text before the cursor).", "",
      "Quote LINE to keep trailing spaces: mccomplete complete \"gamemode \""]

def parse : Page where
  command := "cli parse"
  arguments := "[OPTIONS] [LINE]"
  about := ["Show how far LINE gets through the grammar and what it binds."]

def tree : Page where
  command := "cli tree"
  arguments := "[OPTIONS] [PATH]..."
  about := ["Show the grammar below PATH (e.g. `tree execute as`)."]
  options := [⟨"--depth", some "INTEGER RANGE", "Levels to show.  [default: 2; x>=1]"⟩]

def configShow : Page where
  command := "cli config show"
  arguments := "[OPTIONS]"
  about := ["Show the effective configuration."]

def configSet : Page where
  command := "cli config set"
  arguments := "[OPTIONS] KEY VALUE"
  about := ["Set KEY (section.name, e.g. data.commands_path) to VALUE."]

def configPath : Page where
  command := "cli config path"
  arguments := "[OPTIONS]"
  about := ["Print the config file location."]

def config : Page where
  command := "cli config"
  arguments := "[OPTIONS] COMMAND [ARGS]..."
  about := ["View and change settings (show, set, path)."]
  commands :=
    [("path", "Print the config file location."),
      ("set", "Set KEY (section.name, e.g. data.commands_path) to VALUE."),
      ("show", "Show the effective configuration.")]

def top : Page where
  command := "cli"
  arguments := "[OPTIONS] [COMMAND] [ARGS]..."
  about :=
    ["mccomplete: completion for Minecraft/Brigadier command grammars.", "",
      "Run without a subcommand to launch the interactive REPL."]
  options :=
    [⟨"--json", none, "Output JSON for editor plugins and scripts."⟩,
      ⟨"--commands", some "FILE",
        "Grammar tree (commands.json). Defaults to the configured or bundled one."⟩,
      ⟨"--registries", some "FILE",
        "Registries (registries.json). Defaults to the configured or bundled one."⟩,
      ⟨"--log-level", some "[debug|info|warning|error]", "Log level (overrides the config file)."⟩,
      ⟨"--version", none, "Show the version and exit."⟩]
  commands :=
    [("complete", "Show completions for LINE (the text before the cursor)."),
      ("config", "View and change settings (show, set, path)."),
      ("parse", "Show how far LINE gets through the grammar and what it binds."),
      ("tree", "Show the grammar below PATH (e.g.")]

end Page

end CommandCompletion.Program
