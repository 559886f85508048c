import CommandCompletion.Report.Table
import CommandCompletion.Settings.Config

namespace CommandCompletion.Report

-- The settings section by section, each with its name in front. Only tables are sections. The
-- names are marked up.
def settingRows (settings : Dict Value) : List (List Text) :=
  settings.flatMap fun (part, values) =>
    match values with
    | .table members =>
      members.map fun (name, value) => [part ++ "." ++ name, Markup.escape value.shown]
    | _ => []

def settings (mode : Mode) (settings : Dict Value) : Report :=
  match mode with
  | .json => .ok (success (.table settings))
  | .human =>
    table .human
      { title := "Configuration", headers := ["Setting", "Value"], rows := settingRows settings }
      .null

def setting (mode : Mode) (key : Text) (value : Value) : Report :=
  match mode with
  | .json => .ok (success (.table [(key, value)]))
  | .human => done .human (key ++ " = " ++ value.shown)

-- A path is marked up. It stands on one line, however long it is.
def path (mode : Mode) (path : FilePath) : Report :=
  match mode with
  | .json => .ok (success (.table [("path", .text path.text)]))
  | .human => (seenWide path.text).map onOut

end CommandCompletion.Report
