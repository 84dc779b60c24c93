import ServiceCharter.Text.Basic

/-!
# The fields of a service charter

A charter describes a public service in eleven fields. Their order in `Field.all` is the order of
the sections of a document, and each field but one comes under a heading of its own: the complete
description brings its headings with it and is inserted verbatim.

The keys are pairwise different, so `ofKey?` undoes `key` (`ofKey?_key`).
-/

namespace ServiceCharter

/-- A field of a service charter. -/
inductive Field where
  | summary
  | description
  | exclusions
  | waitingTime
  | cost
  | outcome
  | documents
  | instructions
  | digitalChannels
  | inPersonChannels
  | legislation
deriving DecidableEq, Repr

namespace Field

/-- The catalogue: all fields in the order of the sections. -/
def all : List Field :=
  [summary, description, exclusions, waitingTime, cost, outcome, documents, instructions,
    digitalChannels, inPersonChannels, legislation]

/-- The name under which the text service sends the field. -/
def key : Field → String
  | summary => "descricao_resumida"
  | description => "descricao_completa"
  | exclusions => "servico_nao_cobre"
  | waitingTime => "tempo_atendimento"
  | cost => "custo"
  | outcome => "resultado_solicitacao"
  | documents => "documentos_necessarios"
  | instructions => "instrucoes_solicitante"
  | digitalChannels => "canais_digitais"
  | inPersonChannels => "canais_presenciais"
  | legislation => "legislacao_relacionada"

/-- The heading of the field's section. -/
def title : Field → String
  | summary => "Descrição Resumida"
  | description => "Descrição Completa"
  | exclusions => "O que o serviço não cobre"
  | waitingTime => "Tempo para atendimento"
  | cost => "Custo"
  | outcome => "Resultado da solicitação"
  | documents => "Documentos necessários"
  | instructions => "Instruções para o solicitante"
  | digitalChannels => "Canais digitais"
  | inPersonChannels => "Canais presenciais"
  | legislation => "Legislação relacionada"

/-- Whether the field's text carries its own headings and is inserted as it is. -/
def isVerbatim : Field → Bool
  | description => true
  | _ => false

/-- The field with a key. -/
def ofKey? (name : String) : Option Field := all.find? fun f => f.key == name

/-- The place of the field in the catalogue. -/
def index (f : Field) : Nat := all.idxOf f

theorem mem_all (f : Field) : f ∈ all := by cases f <;> decide

theorem key_injective {f g : Field} (h : f.key = g.key) : f = g := by
  revert h; cases f <;> cases g <;> decide

/-- Reading back the key of a field gives the field. -/
theorem ofKey?_key (f : Field) : ofKey? f.key = some f := by cases f <;> decide

end Field

/-- No field has this key. -/
structure UnknownField where
  name : String
deriving DecidableEq, Repr

/-- The wording of the error. -/
def UnknownField.message (e : UnknownField) : String := s!"Unknown field '{e.name}'"

/-- The field with a key, or the error that there is none. -/
def Field.parse (name : String) : Except UnknownField Field :=
  match ofKey? name with
  | some f => .ok f
  | none => .error ⟨name⟩

end ServiceCharter
