import Switchboard.Json.Value

/-! A small flow to try a desk with: it asks for a name, and one name leads to a queue. -/
namespace Switchboard.Sample

def node (id kind : String) (config : List (String × Json)) : Json :=
  .object ([("id", .string id), ("kind", .string kind)] ++
    if config.isEmpty then [] else [("config", .object config)])

def edge (source target : String) (handle : Option String) : Json :=
  .object ([("source", .string source), ("target", .string target)] ++
    match handle with
    | some handle => [("handle", .string handle)]
    | none => [])

def rule : Json :=
  .object [("id", .string "is_vip"), ("variable", .string "nome"), ("operator", .string "=="),
    ("value", .string "VIP")]

def routing : Json :=
  .object [("id", .string "vip"), ("name", .string "VIP routing"),
    ("nodes", .array [
      node "start" "start" [],
      node "hello" "message" [("text", .string "Olá")],
      node "ask" "input" [("text", .string "Qual seu nome?"), ("variable", .string "nome")],
      node "check" "condition" [("rules", .array [rule])],
      node "sac" "queue" [("queue", .string "SAC")],
      node "bye" "end" []]),
    ("edges", .array [
      edge "start" "hello" none,
      edge "hello" "ask" none,
      edge "ask" "check" none,
      edge "check" "sac" (some "is_vip"),
      edge "check" "bye" (some "else")])]

end Switchboard.Sample
