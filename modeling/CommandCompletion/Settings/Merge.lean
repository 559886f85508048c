import CommandCompletion.Data.Value

namespace CommandCompletion.Settings

mutual

-- Lays settings over others: tables that both have are merged, everything else is replaced.
def merge (base : Dict Value) : List (Text × Value) → Dict Value
  | [] => base
  | (name, value) :: rest => merge (base.insert name (mergeValue (base.get? name) value)) rest

def mergeValue (old : Option Value) : Value → Value
  | .table members =>
    match old with
    | some (.table base) => .table (merge base members)
    | _ => .table members
  | value => value

end

end CommandCompletion.Settings
