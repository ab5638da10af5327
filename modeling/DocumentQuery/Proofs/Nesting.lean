import Mathlib.Tactic
import DocumentQuery.Pipeline.Basic

/-!
# What pipelines hold

A pipeline holds pipelines and plain documents, in its joins, unions and generic stages and in those
of the pipelines inside it. They are listed in the order in which a reader of the text meets them: a
pipeline before its stages, these from left to right, and the arguments of a generic stage before
its options, which are in the order of their keys.
-/

namespace DocumentQuery

/-- A pipeline, or a plain document that is an argument. -/
inductive Content where
  | pipeline (p : Pipeline)
  | document (d : Json)

mutual

def Stage.contents : Stage → List Content
  | .join _ _ _ _ right => right.contents
  | .union other => other.contents
  | .generic _ args options =>
    StageArgument.allContents args ++ StageArgument.entryContents options
  | _ => []

def Stage.allContents : List Stage → List Content
  | [] => []
  | s :: rest => s.contents ++ Stage.allContents rest

/-- All that a pipeline holds at any depth, itself first. -/
def Pipeline.contents : Pipeline → List Content
  | ⟨name, stages⟩ => .pipeline ⟨name, stages⟩ :: Stage.allContents stages

def StageArgument.contents : StageArgument → List Content
  | .expr _ => []
  | .json d => [.document d]
  | .pipeline p => p.contents

def StageArgument.allContents : List StageArgument → List Content
  | [] => []
  | arg :: rest => arg.contents ++ StageArgument.allContents rest

def StageArgument.entryContents : List (String × StageArgument) → List Content
  | [] => []
  | (_, arg) :: rest => arg.contents ++ StageArgument.entryContents rest

end

namespace Stage

lemma mem_allContents {c : Content} {stages : List Stage} :
    c ∈ allContents stages ↔ ∃ s ∈ stages, c ∈ s.contents := by
  induction stages with
  | nil => simp [allContents]
  | cons s rest ih => simp [allContents, ih]

lemma allContents_append (front back : List Stage) :
    allContents (front ++ back) = allContents front ++ allContents back := by
  induction front with
  | nil => rw [List.nil_append, allContents, List.nil_append]
  | cons s rest ih => rw [List.cons_append, allContents, allContents, ih, List.append_assoc]

end Stage

namespace StageArgument

lemma mem_allContents {c : Content} {args : List StageArgument} :
    c ∈ allContents args ↔ ∃ arg ∈ args, c ∈ arg.contents := by
  induction args with
  | nil => simp [allContents]
  | cons arg rest ih => simp [allContents, ih]

lemma mem_entryContents {c : Content} {options : List (String × StageArgument)} :
    c ∈ entryContents options ↔ ∃ option ∈ options, c ∈ option.2.contents := by
  induction options with
  | nil => simp [entryContents]
  | cons option rest ih => simp [entryContents, ih]

end StageArgument

namespace Pipeline

lemma mem_contents {c : Content} {p : Pipeline} :
    c ∈ p.contents ↔ c = .pipeline p ∨ ∃ s ∈ p.stages, c ∈ s.contents := by
  obtain ⟨name, stages⟩ := p
  rw [contents, List.mem_cons, Stage.mem_allContents]

end Pipeline

end DocumentQuery
