import Conform.Json.Printer
import Conform.Json.Token

/-!
The tokens that the scanner finds in the compact spelling of a JSON value.
-/

namespace Conform.Json

/-- What holds of a container when it holds of all values inside holds of every value. -/
@[elab_as_elim]
theorem induct {motive : Json → Prop} (null : motive .null) (bool : ∀ b, motive (.bool b))
    (number : ∀ n, motive (.number n)) (string : ∀ s, motive (.string s))
    (array : ∀ items : List Json, (∀ v ∈ items, motive v) → motive (.array items))
    (object : ∀ fields : List (String × Json), (∀ field ∈ fields, motive field.2) →
      motive (.object fields))
    (v : Json) : motive v := by
  refine @Json.rec motive (fun items => ∀ v ∈ items, motive v)
    (fun fields => ∀ field ∈ fields, motive field.2) (fun field => motive field.2)
    null bool number string array object (by simp) ?_ (by simp) ?_ (fun _ _ h => h) v
  · intro v rest hv hrest w hw
    rcases List.mem_cons.mp hw with rfl | hw
    · exact hv
    · exact hrest w hw
  · intro field rest hfield hrest w hw
    rcases List.mem_cons.mp hw with rfl | hw
    · exact hfield
    · exact hrest w hw

/-- Parts with commas between neighbours. -/
def separated : List (List Token) → List Token
  | [] => []
  | part :: parts => part ++ parts.flatMap (.comma :: ·)

mutual

/-- The tokens of the compact spelling. -/
def tokens : Json → List Token
  | .null => [.null]
  | .bool b => [.bool b]
  | .number n => [.number n]
  | .string s => [.string s]
  | .array items => .leftBracket :: (separated (itemTokens items) ++ [.rightBracket])
  | .object fields => .leftBrace :: (separated (fieldTokens fields) ++ [.rightBrace])

def itemTokens : List Json → List (List Token)
  | [] => []
  | v :: rest => tokens v :: itemTokens rest

def fieldTokens : List (String × Json) → List (List Token)
  | [] => []
  | (key, v) :: rest => (.string key :: .colon :: tokens v) :: fieldTokens rest

end

variable {c : Char} {cs ds rest acc : List Char} {t : Token} {ts us : List Token}

theorem itemChars_eq_map (items : List Json) : itemChars items = items.map chars := by
  induction items with
  | nil => rfl
  | cons v rest ih => rw [itemChars, ih, List.map_cons]

theorem fieldChars_eq_map (fields : List (String × Json)) :
    fieldChars fields = fields.map fun field => quoted field.1 ++ ':' :: field.2.chars := by
  induction fields with
  | nil => rfl
  | cons field rest ih => rw [fieldChars, ih, List.map_cons]

theorem itemTokens_eq_map (items : List Json) : itemTokens items = items.map tokens := by
  induction items with
  | nil => rfl
  | cons v rest ih => rw [itemTokens, ih, List.map_cons]

theorem fieldTokens_eq_map (fields : List (String × Json)) : fieldTokens fields =
    fields.map fun field => .string field.1 :: .colon :: field.2.tokens := by
  induction fields with
  | nil => rfl
  | cons field rest ih => rw [fieldTokens, ih, List.map_cons]

theorem joined_cons (separator part : List Char) (parts : List (List Char)) :
    joined separator (part :: parts) = part ++ parts.flatMap (separator ++ ·) := by
  induction parts generalizing part with
  | nil => simp [joined]
  | cons next parts ih =>
    rw [joined, ih, List.flatMap_cons, List.append_assoc, List.append_assoc]
    exact List.cons_ne_nil next parts

namespace Scanner
variable {s next : Scanner}

theorem run_of_step (h : s.step c = some (ts, next)) :
    s.run (c :: cs) = (next.run cs).map (ts ++ ·) := by
  simp only [run, h, Option.bind_eq_bind, Option.bind_some]
  cases next.run cs <;> rfl

/-- A step that completes no token. -/
theorem run_of_quiet_step (h : s.step c = some ([], next)) : s.run (c :: cs) = next.run cs := by
  rw [run_of_step h]
  simp

end Scanner

/-- A word in front of these characters ends there. -/
def EndsWord (cs : List Char) : Prop := ∀ c, cs.head? = some c → Scanner.isDelimiter c = true

theorem endsWord_nil : EndsWord [] := by
  intro c h
  cases h

theorem endsWord_cons (h : Scanner.isDelimiter c = true) : EndsWord (c :: cs) := by
  rintro d hd
  cases hd
  exact h

theorem EndsWord.append (hcs : EndsWord cs) (hds : EndsWord ds) : EndsWord (cs ++ ds) := by
  cases cs with
  | nil => exact hds
  | cons c cs => exact hcs

/-- Between tokens, the scanner takes these characters for these tokens. -/
def Scans (cs : List Char) (ts : List Token) : Prop :=
  ∀ rest, EndsWord rest → Scanner.idle.run (cs ++ rest) = (Scanner.idle.run rest).map (ts ++ ·)

namespace Scans

theorem nil : Scans [] [] := by
  intro rest _
  simp

theorem append (hcs : Scans cs ts) (hds : Scans ds us) (ends : EndsWord ds) :
    Scans (cs ++ ds) (ts ++ us) := by
  intro rest hrest
  rw [List.append_assoc, hcs _ (ends.append hrest), hds _ hrest, Option.map_map]
  simp [Function.comp_def]

theorem punctuation (h : Token.punctuation? c = some t) (hcs : Scans cs ts) :
    Scans (c :: cs) (t :: ts) := by
  have hstep : Scanner.idle.step c = some ([t], .idle) := by
    unfold Token.punctuation? at h
    split at h <;> cases h <;> rfl
  intro rest hrest
  rw [List.cons_append, Scanner.run_of_step hstep, hcs rest hrest, Option.map_map]
  rfl

end Scans

/-- A word goes on up to the next delimiter. -/
theorem run_word (plain : ∀ c ∈ cs, Scanner.isDelimiter c = false)
    (word : Token.ofWord? (acc.reverse ++ cs) = some t) (hrest : EndsWord rest) :
    (Scanner.word acc).run (cs ++ rest) = (Scanner.idle.run rest).map (t :: ·) := by
  induction cs generalizing acc with
  | nil =>
    rw [List.append_nil] at word
    cases rest with
    | nil => simp [Scanner.run, Scanner.finish, word]
    | cons c rest =>
      have hstep : (Scanner.word acc).step c =
          some (t :: (Scanner.start c).1, (Scanner.start c).2) := by
        simp [Scanner.step, hrest c rfl, word]
      rw [List.nil_append, Scanner.run_of_step hstep, Scanner.run_of_step rfl, Option.map_map]
      rfl
  | cons c cs ih =>
    have hstep : (Scanner.word acc).step c = some ([], .word (c :: acc)) := by
      simp [Scanner.step, plain c List.mem_cons_self]
    rw [List.cons_append, Scanner.run_of_quiet_step hstep]
    exact ih (fun d hd => plain d (List.mem_cons_of_mem c hd)) (by simpa using word)

theorem Scans.word (hne : cs ≠ []) (plain : ∀ c ∈ cs, Scanner.isDelimiter c = false)
    (word : Token.ofWord? cs = some t) : Scans cs [t] := by
  intro rest hrest
  obtain ⟨c, cs, rfl⟩ := List.exists_cons_of_ne_nil hne
  have hc := plain c List.mem_cons_self
  simp only [Scanner.isDelimiter, Bool.or_eq_false_iff, decide_eq_false_iff_not,
    Option.isSome_eq_false_iff, Option.isNone_iff_eq_none] at hc
  have hstep : Scanner.idle.step c = some ([], .word [c]) := by
    simp [Scanner.step, Scanner.start, hc]
  rw [List.cons_append, Scanner.run_of_quiet_step hstep]
  exact run_word (fun d hd => plain d (List.mem_cons_of_mem c hd)) word hrest

theorem hexDigit?_hexChar (n : Nat) : Text.hexDigit? (hexChar n) = some (n % 16) := by
  have hall : ∀ d < 16, Text.hexDigit? (Nat.digitChar d) = some d := by decide
  exact hall (n % 16) (Nat.mod_lt _ (by decide))

/-- A character behind a backslash. -/
theorem run_unescaped {d : Char} (hu : d ≠ 'u') (h : unescape? d = some c) :
    (Scanner.text acc).run ('\\' :: d :: rest) = (Scanner.text (c :: acc)).run rest := by
  have hstep : (Scanner.escape acc).step d = some ([], .text (c :: acc)) := by
    simp [Scanner.step, hu, h]
  rw [Scanner.run_of_quiet_step rfl, Scanner.run_of_quiet_step hstep]

/-- A control character is spelled by its number. -/
theorem run_numbered (h : c.toNat < 0x20) :
    (Scanner.text acc).run ('\\' :: 'u' :: '0' :: '0' :: hexChar (c.toNat / 16) ::
      hexChar c.toNat :: rest) = (Scanner.text (c :: acc)).run rest := by
  have hfirst : (Scanner.unicode acc none 4 0).step '0' = some ([], .unicode acc none 3 0) := rfl
  have hsecond : (Scanner.unicode acc none 3 0).step '0' = some ([], .unicode acc none 2 0) := rfl
  have hthird : (Scanner.unicode acc none 2 0).step (hexChar (c.toNat / 16)) =
      some ([], .unicode acc none 1 (c.toNat / 16)) := by
    have hsmall : c.toNat / 16 % 16 = c.toNat / 16 := by omega
    simp [Scanner.step, hexDigit?_hexChar, hsmall]
  have hfourth : (Scanner.unicode acc none 1 (c.toNat / 16)).step (hexChar c.toNat) =
      some ([], .text (c :: acc)) := by
    have hvalue : 16 * (c.toNat / 16) + c.toNat % 16 = c.toNat := by omega
    have hunit : Scanner.codeUnit acc none c.toNat = some (.text (c :: acc)) := by
      rw [Scanner.codeUnit, if_neg (by omega), if_neg (by omega), Char.ofNat_toNat]
    simp [Scanner.step, hexDigit?_hexChar, hvalue, hunit]
  rw [Scanner.run_of_quiet_step rfl, Scanner.run_of_quiet_step rfl,
    Scanner.run_of_quiet_step hfirst, Scanner.run_of_quiet_step hsecond,
    Scanner.run_of_quiet_step hthird, Scanner.run_of_quiet_step hfourth]

/-- A character inside quotes is read as itself. -/
theorem run_escapeChar (c : Char) :
    (Scanner.text acc).run (escapeChar c ++ rest) = (Scanner.text (c :: acc)).run rest := by
  unfold escapeChar
  split
  case h_8 hquote hbackslash _ _ _ _ _ =>
    split
    · rename_i h
      exact run_numbered h
    · rename_i h
      have hstep : (Scanner.text acc).step c = some ([], .text (c :: acc)) := by
        rw [Scanner.step, if_neg hquote, if_neg hbackslash, if_neg h]
      exact Scanner.run_of_quiet_step hstep
  all_goals exact run_unescaped (by decide) rfl

theorem run_text (cs : List Char) :
    (Scanner.text acc).run (cs.flatMap escapeChar ++ '"' :: rest) =
      (Scanner.idle.run rest).map (.string (String.ofList (acc.reverse ++ cs)) :: ·) := by
  induction cs generalizing acc with
  | nil =>
    have hclose : (Scanner.text acc).step '"' =
        some ([.string (String.ofList acc.reverse)], .idle) := rfl
    rw [List.flatMap_nil, List.nil_append, Scanner.run_of_step hclose, List.append_nil]
    rfl
  | cons c cs ih => rw [List.flatMap_cons, List.append_assoc, run_escapeChar, ih]; simp

theorem Scans.quoted (s : String) : Scans (quoted s) [.string s] := by
  intro rest _
  have hopen : Scanner.idle.step '"' = some ([], .text []) := rfl
  rw [Json.quoted, List.cons_append, Scanner.run_of_quiet_step hopen, List.append_assoc,
    List.singleton_append, run_text, List.reverse_nil, List.nil_append, String.ofList_toList]
  rfl

/-- Digits and the other characters of numbers stand for nothing else. -/
theorem plain_of_mem_number {n : Number} (h : c ∈ n.chars) :
    Scanner.isDelimiter c = false ∧ c ∉ ['n', 't', 'f'] ∧ 0x20 < c.toNat ∧ c.toNat < 0x80 := by
  rcases Number.mem_chars h with ⟨d, rfl⟩ | rfl | rfl | rfl | rfl
  · clear h
    revert d
    decide
  all_goals decide

theorem Scans.number (n : Number) : Scans n.chars [.number n] := by
  refine word n.chars_ne_nil (fun c hc => (plain_of_mem_number hc).1) ?_
  have hliteral {w : Char} {word : List Char} (hw : w ∈ ['n', 't', 'f']) :
      n.chars ≠ w :: word := by
    intro h
    have hmem : w ∈ n.chars := by simp [h]
    exact (plain_of_mem_number hmem).2.1 hw
  rw [Token.ofWord?, if_neg (hliteral (by simp)), if_neg (hliteral (by simp)),
    if_neg (hliteral (by simp)), Number.ofChars?_chars]
  rfl

section Joined
variable {α : Type} {spell : α → List Char} {token : α → List Token} {xs : List α}

/-- Parts with a comma in front of each. -/
theorem Scans.behind (h : ∀ x ∈ xs, Scans (spell x) (token x)) :
    EndsWord ((xs.map spell).flatMap ([','] ++ ·)) ∧
      Scans ((xs.map spell).flatMap ([','] ++ ·)) ((xs.map token).flatMap (.comma :: ·)) := by
  induction xs with
  | nil => exact ⟨endsWord_nil, nil⟩
  | cons x xs ih =>
    obtain ⟨hends, hscans⟩ := ih fun y hy => h y (List.mem_cons_of_mem x hy)
    have hx : Scans (',' :: spell x) (.comma :: token x) := punctuation rfl (h x List.mem_cons_self)
    exact ⟨endsWord_cons rfl, hx.append hscans hends⟩

/-- Parts that are scanned one by one are scanned with commas between them. -/
theorem Scans.joined (h : ∀ x ∈ xs, Scans (spell x) (token x)) :
    Scans (joined [','] (xs.map spell)) (separated (xs.map token)) := by
  cases xs with
  | nil => exact nil
  | cons x xs =>
    obtain ⟨hends, hscans⟩ := behind fun y hy => h y (List.mem_cons_of_mem x hy)
    rw [List.map_cons, List.map_cons, joined_cons, separated]
    exact (h x List.mem_cons_self).append hscans hends

end Joined

/-- The scanner finds the tokens of a value in its spelling. -/
theorem scans (v : Json) : Scans v.chars v.tokens := by
  induction v using induct with
  | null => exact .word (by simp [chars]) (by simp [chars]; decide) rfl
  | bool b =>
    cases b with
    | false => exact .word (by simp [chars]) (by simp [chars]; decide) rfl
    | true => exact .word (by simp [chars]) (by simp [chars]; decide) rfl
  | number n =>
    rw [chars, tokens]
    exact .number n
  | string s =>
    rw [chars, tokens]
    exact .quoted s
  | array items ih =>
    rw [chars, tokens, itemChars_eq_map, itemTokens_eq_map]
    have hclose : Scans [']'] [.rightBracket] := .punctuation rfl .nil
    exact .punctuation rfl ((Scans.joined ih).append hclose (endsWord_cons rfl))
  | object fields ih =>
    rw [chars, tokens, fieldChars_eq_map, fieldTokens_eq_map]
    have hclose : Scans ['}'] [.rightBrace] := .punctuation rfl .nil
    refine .punctuation rfl (Scans.append ?_ hclose (endsWord_cons rfl))
    refine Scans.joined fun field hfield => ?_
    exact (Scans.quoted field.1).append (.punctuation rfl (ih field hfield)) (endsWord_cons rfl)

/-- The tokens of a spelling are those of the value. -/
theorem scan_compress (v : Json) : Token.scan v.compress = some v.tokens := by
  have hscans := scans v [] endsWord_nil
  rw [List.append_nil] at hscans
  rw [Token.scan, compress, String.toList_ofList, hscans]
  simp [Scanner.run, Scanner.finish]

end Conform.Json
