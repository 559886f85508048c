import CommandCompletion.Line.Suggestion

namespace CommandCompletion.Sample

def literal (name : Text) (children : List (Text × Node)) : Text × Node :=
  (name, { kind := .literal, children := children })

def argument (name parser : Text) (children : List (Text × Node)) : Text × Node :=
  (name, { kind := .argument, children := children, parser := some parser })

-- A selector argument admits some type of entities, one of them or more.
def entity (name type amount : Text) (children : List (Text × Node)) : Text × Node :=
  (name,
    { kind := .argument, children := children, parser := some "minecraft:entity",
      properties := some [("type", .text type), ("amount", .text amount)] })

-- A command may end here.
def runs (child : Text × Node) : Text × Node :=
  (child.1, { child.2 with executable := true })

def leadsTo (target : Path) (child : Text × Node) : Text × Node :=
  (child.1, { child.2 with redirect := some target })

def atLeast (least : Int) (child : Text × Node) : Text × Node :=
  (child.1, { child.2 with properties := some [("min", .int least)] })

-- The command tree that is used when no other one is given.
def root : Node where
  kind := .root
  children := [
    runs (literal "clear" [
      runs (entity "targets" "players" "multiple" [
        runs (argument "item" "minecraft:item_predicate" [])])]),
    literal "execute" [
      literal "as" [leadsTo ["execute"] (entity "targets" "entities" "multiple" [])],
      literal "at" [leadsTo ["execute"] (entity "targets" "entities" "multiple" [])],
      literal "positioned" [leadsTo ["execute"] (argument "pos" "minecraft:vec3" [])],
      leadsTo [] (literal "run" [])],
    literal "fill" [
      argument "from" "minecraft:block_pos" [
        argument "to" "minecraft:block_pos" [
          runs (argument "block" "minecraft:block_state" [
            runs (literal "replace" [runs (argument "filter" "minecraft:block_predicate" [])]),
            runs (literal "destroy" []),
            runs (literal "hollow" []),
            runs (literal "keep" []),
            runs (literal "outline" [])])]]],
    literal "gamemode" [
      runs (literal "survival" [runs (entity "target" "players" "multiple" [])]),
      runs (literal "creative" [runs (entity "target" "players" "multiple" [])]),
      runs (literal "adventure" [runs (entity "target" "players" "multiple" [])]),
      runs (literal "spectator" [runs (entity "target" "players" "multiple" [])])],
    literal "give" [
      entity "targets" "players" "multiple" [
        runs (argument "item" "minecraft:item_stack" [
          runs (atLeast 1 (argument "count" "brigadier:integer" []))])]],
    literal "say" [runs (argument "message" "minecraft:message" [])],
    literal "setblock" [
      argument "pos" "minecraft:block_pos" [
        runs (argument "block" "minecraft:block_state" [
          runs (literal "destroy" []),
          runs (literal "keep" []),
          runs (literal "replace" [])])]],
    literal "teleport" [
      runs (argument "location" "minecraft:vec3" []),
      runs (entity "destination" "entities" "single" []),
      entity "targets" "entities" "multiple" [
        runs (argument "location" "minecraft:vec3" [
          runs (argument "rotation" "minecraft:rotation" [])]),
        runs (entity "destination" "entities" "single" [])]],
    leadsTo ["teleport"] (literal "tp" [])]

def grammar : Grammar where
  root := root
  isRoot := rfl
  sound := by decide +kernel
  distinct := by
    unfold Dict.Distinct
    decide +kernel

-- The registries that are used when no others are given.
def registries : Registries where
  entries := [
    ("item", ["minecraft:air", "minecraft:stone", "minecraft:granite", "minecraft:dirt",
      "minecraft:cobblestone", "minecraft:oak_planks", "minecraft:stick", "minecraft:torch",
      "minecraft:diamond", "minecraft:diamond_sword", "minecraft:iron_ingot"]),
    ("block", ["minecraft:air", "minecraft:stone", "minecraft:granite", "minecraft:dirt",
      "minecraft:cobblestone", "minecraft:oak_planks", "minecraft:torch", "minecraft:glass",
      "minecraft:water"])]

def commands : CommandSet := ⟨grammar, registries⟩

end CommandCompletion.Sample
