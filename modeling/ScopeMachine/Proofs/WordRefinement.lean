import ScopeMachine.Proofs.LiveBytes
import ScopeMachine.Proofs.OperationRefinement
import ScopeMachine.Proofs.WordMachine

/-!
# Bytes and words

A machine whose stack holds nothing but 32-bit integers is a word machine
(`Machine.runs_refines_runsOnWords`): runs end with the same result, the live bytes stay the bytes of the words,
and the general registers agree. The relation between the two machines is kept by every request of the
stack, so by every operation and every program of the host, whether it succeeds or fails.
-/

namespace ScopeMachine

/-! ## Words and their bytes -/

namespace Word

lemma length_bytes (w : Word) : w.bytes.length = 4 := Bytes.length_ofNat 4 w.toNat

lemma layout_concat (ws : List Word) (w : Word) : layout (ws ++ [w]) = layout ws ++ w.bytes := by
  rw [layout, List.flatMap_append, List.flatMap_singleton]
  rfl

lemma length_layout (ws : List Word) : (layout ws).length = 4 * ws.length := by
  induction ws with
  | nil => rfl
  | cons w ws ih =>
    have hcons : layout (w :: ws) = w.bytes ++ layout ws := rfl
    rw [hcons, List.length_append, length_bytes, ih, List.length_cons]
    omega

lemma encode_ofBitVec (w : Word) : CellType.encode .i32 (Int32.ofBitVec w) = w.bytes := by
  have hint : CellType.toInt .i32 (Int32.ofBitVec w) = w.toInt := Int32.toInt_ofBitVec w
  have hmod : w.toInt.emod (2 ^ 32 : Nat) = w.toNat := by
    have hofInt := congrArg BitVec.toNat (BitVec.ofInt_toInt : BitVec.ofInt 32 w.toInt = w)
    rw [BitVec.toNat_ofInt] at hofInt
    rw [← hofInt, Int.toNat_of_nonneg (Int.emod_nonneg _ (by decide))]
    rfl
  rw [CellType.encode, hint]
  exact congrArg (fun n : Int => Bytes.ofNat 4 n.toNat) hmod

lemma decode_bytes (w : Word) : CellType.decode .i32 w.bytes = Int32.ofBitVec w := by
  rw [← encode_ofBitVec, CellType.decode_encode]

/-- A 32-bit integer is the one that a word stands for. -/
def Denotes (v : Int32) (w : Word) : Prop := v = Int32.ofBitVec w

lemma denotes_toBitVec (v : Int32) : Denotes v v.toBitVec := (Int32.ofBitVec_toBitVec v).symm

lemma denotes_ofInt (v : Int32) : Denotes v (BitVec.ofInt 32 v.toInt) := by
  rw [BitVec.ofInt_int32ToInt]
  exact denotes_toBitVec v

lemma denotes_toInt32 (x : Int64) : Denotes x.toInt32 (BitVec.ofInt 32 x.toInt) := denotes_toBitVec x.toInt32

lemma Denotes.add {a b : Int32} {v w : Word} (ha : Denotes a v) (hb : Denotes b w) :
    Denotes (a + b) (v + w) := by
  rw [ha, hb]
  exact (Int32.ofBitVec_add v w).symm

lemma Denotes.toInt64_eq {v : Int32} {w : Word} (h : Denotes v w) : v.toInt64 = Int64.ofInt w.toInt := by
  rw [← Int64.ofInt_int32ToInt, h, Int32.toInt_ofBitVec]

lemma top_concat (ws : List Word) (w : Word) : top (ws ++ [w]) = .ok w (ws ++ [w]) := by
  rw [top, List.getLast?_concat]

lemma pop_concat (ws : List Word) (w : Word) : pop (ws ++ [w]) = .ok w ws := by
  rw [pop, List.getLast?_concat, List.dropLast_concat]

end Word

/-! ## The stack -/

/-- The live bytes of a stack are those of words. -/
structure Stack.Holds (capacity : Nat) (s : Stack) (ws : List Word) : Prop where
  capacity_eq : s.capacity = capacity
  live_eq : s.live = Word.layout ws

namespace Stack.Holds

variable {capacity : Nat} {s : Stack} {ws : List Word}

lemma length_live_eq (h : s.Holds capacity ws) : s.live.length = 4 * ws.length := by
  rw [h.live_eq, Word.length_layout]

lemma remaining_eq_sub (h : s.Holds capacity ws) : s.remaining = capacity - 4 * ws.length := by
  rw [remaining_eq, h.length_live_eq, h.capacity_eq]

lemma split_last {w : Word} (h : s.Holds capacity (ws ++ [w])) :
    4 ≤ s.live.length ∧ s.live.drop (s.live.length - 4) = w.bytes ∧
      s.live.take (s.live.length - 4) = Word.layout ws := by
  have hlen : s.live.length - 4 = (Word.layout ws).length := by
    rw [h.length_live_eq, Word.length_layout, List.length_append, List.length_singleton]
    omega
  refine ⟨?_, ?_, ?_⟩
  · rw [h.length_live_eq, List.length_append, List.length_singleton]
    omega
  · rw [hlen, h.live_eq, Word.layout_concat, List.drop_left]
  · rw [hlen, h.live_eq, Word.layout_concat, List.take_left]

lemma push_alike (h : s.Holds capacity ws) {v : Int32} {w : Word} (hv : Word.Denotes v w) :
    Alike (· = ·) (Holds capacity) (push .i32 v s) (Word.push capacity w ws) := by
  have hremaining := h.remaining_eq_sub
  have hwidth : CellType.width .i32 = 4 := rfl
  by_cases hfull : 4 * (ws.length + 1) > capacity
  · rw [push_of_lt _ (by omega), Word.push, if_pos hfull, hremaining]
    exact ⟨rfl, h⟩
  · obtain ⟨s', hpush, hlive, hcapacity⟩ := push_of_le (s := s) (t := .i32) v (by omega)
    rw [hpush, Word.push, if_neg hfull]
    rw [h.live_eq, hv, Word.encode_ofBitVec, ← Word.layout_concat] at hlive
    exact ⟨rfl, hcapacity.trans h.capacity_eq, hlive⟩

lemma peek_alike (h : s.Holds capacity ws) :
    Alike Word.Denotes (Holds capacity) (peek .i32 s) (Word.top ws) := by
  rcases ws.eq_nil_or_concat' with rfl | ⟨init, w, rfl⟩
  · have hlen : s.live.length = 0 := h.length_live_eq
    rw [peek_of_lt (by rw [hlen]; decide), hlen]
    exact ⟨rfl, h⟩
  · obtain ⟨hle, hlast, -⟩ := h.split_last
    have hpeek : peek .i32 s = .ok (CellType.decode .i32 (s.live.drop (s.live.length - 4))) s :=
      peek_of_le hle
    rw [hpeek, hlast, Word.top_concat]
    exact ⟨Word.decode_bytes w, h⟩

lemma pop_alike (h : s.Holds capacity ws) :
    Alike Word.Denotes (Holds capacity) (pop .i32 s) (Word.pop ws) := by
  rcases ws.eq_nil_or_concat' with rfl | ⟨init, w, rfl⟩
  · have hlen : s.live.length = 0 := h.length_live_eq
    rw [pop_of_lt (by rw [hlen]; decide), hlen]
    exact ⟨rfl, h⟩
  · obtain ⟨hle, hlast, hinit⟩ := h.split_last
    obtain ⟨s', hpop, hlive, hcapacity⟩ :
        ∃ s', pop .i32 s = .ok (CellType.decode .i32 (s.live.drop (s.live.length - 4))) s' ∧
          s'.live = s.live.take (s.live.length - 4) ∧ s'.capacity = s.capacity :=
      pop_of_le hle
    rw [hpop, hlast, Word.pop_concat]
    exact ⟨Word.decode_bytes w, hcapacity.trans h.capacity_eq, hlive.trans hinit⟩

end Stack.Holds

/-! ## Programs of the host -/

namespace WordProgram

variable {S T σ : Type} {R : S → T → Prop}

lemma attempt_alike {α : Type} {x : EStateM Fault S α} {y : EStateM Fault T α} {s : S} {t : T}
    (h : Alike (· = ·) R (x s) (y t)) :
    ∃ answer s' t', attempt x s = (answer, s') ∧ attempt y t = (answer, t') ∧ R s' t' := by
  unfold attempt
  cases hx : x s with
  | ok a s' =>
    rw [hx] at h
    obtain ⟨_, t', hy, rfl, hR⟩ := h.of_ok
    rw [hy]
    exact ⟨_, _, _, rfl, rfl, hR⟩
  | error fault s' =>
    rw [hx] at h
    obtain ⟨t', hy, hR⟩ := h.of_error
    rw [hy]
    exact ⟨_, _, _, rfl, rfl, hR⟩

lemma run_alike {stack : WordStack S} {stack' : WordStack T}
    (hpush : ∀ v s t, R s t → Alike (· = ·) R (stack.push v s) (stack'.push v t))
    (hpop : ∀ s t, R s t → Alike (· = ·) R (stack.pop s) (stack'.pop t))
    (htop : ∀ s t, R s t → Alike (· = ·) R (stack.top s) (stack'.top t)) (program : WordProgram σ)
    {s : S} {t : T} (hR : R s t) :
    Alike (· = ·) (fun a b => R a.1 b.1 ∧ a.2 = b.2) (program.run stack s) (program.run stack' t) := by
  -- equal answers lead into the same branch of the program
  induction program generalizing s t with
  | done result host =>
    cases result with
    | ok _ => exact ⟨rfl, hR, rfl⟩
    | error fault => exact ⟨rfl, hR, rfl⟩
  | push value next ih =>
    obtain ⟨answer, s', t', hs, ht, hR'⟩ := attempt_alike (hpush value s t hR)
    rw [run, run, hs, ht]
    exact ih answer hR'
  | pop next ih =>
    obtain ⟨answer, s', t', hs, ht, hR'⟩ := attempt_alike (hpop s t hR)
    rw [run, run, hs, ht]
    exact ih answer hR'
  | top next ih =>
    obtain ⟨answer, s', t', hs, ht, hR'⟩ := attempt_alike (htop s t hR)
    rw [run, run, hs, ht]
    exact ih answer hR'

lemma run_wordStack_alike (program : WordProgram σ) {capacity : Nat} {s : Stack} {ws : List Word}
    (h : s.Holds capacity ws) :
    Alike (· = ·) (fun a b => a.1.Holds capacity b.1 ∧ a.2 = b.2)
      (program.run Stack.wordStack s) (program.run (Word.wordStack capacity) ws) :=
  run_alike (fun v _ _ hs => hs.push_alike (Word.denotes_toBitVec v)) (fun _ _ hs => hs.pop_alike.map_right)
    (fun _ _ hs => hs.peek_alike.map_right) program h

end WordProgram

/-! ## Operations -/

variable {σ : Type}

/-- A configuration looks like a state of the word machine. -/
structure Config.Represents (capacity : Nat) (s : Config σ) (w : WordState σ) : Prop where
  holds : s.stack.Holds capacity w.words
  general_eq : s.registers.general.get = w.general
  host_eq : s.host = w.host

namespace Config.Represents

variable {capacity : Nat} {s : Config σ} {w : WordState σ}

lemma onStack_alike {α β : Type} {V : α → β → Prop} {x : StackM α} {y : EStateM Fault (List Word) β}
    (h : s.Represents capacity w) (hop : Alike V (Stack.Holds capacity) (x s.stack) (y w.words)) :
    Alike V (Represents capacity) (Config.onStack x s) (WordState.onWords y w) := by
  unfold Config.onStack WordState.onWords
  cases hx : x s.stack with
  | ok a stack =>
    rw [hx] at hop
    obtain ⟨b, words, hy, hV, hholds⟩ := hop.of_ok
    rw [hy]
    exact ⟨hV, hholds, h.general_eq, h.host_eq⟩
  | error fault stack =>
    rw [hx] at hop
    obtain ⟨words, hy, hholds⟩ := hop.of_error
    rw [hy]
    exact ⟨rfl, hholds, h.general_eq, h.host_eq⟩

lemma push_alike (h : s.Represents capacity w) {v : Int32} {u : Word} (hv : Word.Denotes v u) :
    Alike (· = ·) (Represents capacity) (Config.push v s) (WordState.push capacity u w) :=
  h.onStack_alike (h.holds.push_alike hv)

lemma pop_alike (h : s.Represents capacity w) :
    Alike Word.Denotes (Represents capacity) (Config.pop s) (WordState.pop w) :=
  h.onStack_alike h.holds.pop_alike

lemma getGeneral_alike (h : s.Represents capacity w) (register : Register) :
    Alike (· = ·) (Represents capacity) (Config.getGeneral register s) (WordState.getGeneral register w) := by
  by_cases hkind : register.kind = .general
  · obtain ⟨i, rfl⟩ := Register.exists_of_kind hkind
    rw [Config.getGeneral_general]
    exact ⟨congrFun h.general_eq i, h⟩
  · rw [Config.getGeneral_of_ne s hkind, WordState.getGeneral_of_ne w hkind]
    exact ⟨rfl, h⟩

lemma setGeneral_alike (h : s.Represents capacity w) (register : Register) (value : Int64) :
    Alike (· = ·) (Represents capacity) (Config.setGeneral register value s)
      (WordState.setGeneral value register w) := by
  by_cases hkind : register.kind = .general
  · obtain ⟨i, rfl⟩ := Register.exists_of_kind hkind
    obtain ⟨file, hset, hgeneral⟩ := s.setGeneral_general i value
    rw [hset]
    rw [h.general_eq] at hgeneral
    exact ⟨rfl, h.holds, hgeneral, h.host_eq⟩
  · rw [Config.setGeneral_of_ne s hkind, WordState.setGeneral_of_ne w hkind]
    exact ⟨rfl, h⟩

lemma invoke_alike (h : s.Represents capacity w) {table : ScopeTable σ} {externals : Array (WordScope σ)}
    (hdesc : table.DescribedBy capacity externals) (id : ScopeId) :
    Alike (· = ·) (Represents capacity) (Config.invoke table id s)
      (WordState.invoke capacity externals id w) := by
  unfold Config.invoke WordState.invoke
  rcases hdesc.cases id with ⟨hscope, hext⟩ | ⟨scope, external, hscope, hext, hdescribes⟩
  · rw [hscope, hext]
    exact ⟨rfl, h⟩
  · rw [hscope, hext]
    dsimp only
    rcases hdescribes.cases with ⟨hprogram, hcallback⟩ | ⟨program, callback, hprogram, hcallback, hrun⟩
    · rw [hprogram, hcallback, hdescribes.id_eq]
      exact ⟨rfl, h⟩
    · rw [hprogram, hcallback]
      dsimp only
      have halike := (program w.host).run_wordStack_alike h.holds
      rw [hrun s.stack s.host h.holds.capacity_eq, h.host_eq]
      cases hbytes : (program w.host).run Stack.wordStack s.stack with
      | ok _ after =>
        rw [hbytes] at halike
        obtain ⟨_, after', hwords, -, hholds, hhost⟩ := halike.of_ok
        rw [hwords]
        exact ⟨rfl, hholds, h.general_eq, hhost⟩
      | error fault after =>
        rw [hbytes] at halike
        obtain ⟨after', hwords, hholds, hhost⟩ := halike.of_error
        rw [hwords]
        exact ⟨rfl, hholds, h.general_eq, hhost⟩

lemma effect_alike {table : ScopeTable σ} {externals : Array (WordScope σ)}
    (hdesc : table.DescribedBy capacity externals) (op : Operation) (h : s.Represents capacity w) :
    Alike (· = ·) (Represents capacity) (Config.effect table op s)
      (WordState.effect capacity externals op w) := by
  cases op with
  | nop => exact ⟨rfl, h⟩
  | pushConst value => exact h.push_alike (Word.denotes_ofInt value)
  | pushRegister register =>
    refine (h.getGeneral_alike register).bind ?_
    rintro value _ s w rfl h
    exact h.push_alike (Word.denotes_toInt32 value)
  | setRegister register =>
    refine h.pop_alike.bind fun value word s w hv h => ?_
    rw [hv.toInt64_eq]
    exact h.setGeneral_alike register _
  | add =>
    refine h.pop_alike.bind fun a u s w ha h => ?_
    refine h.pop_alike.bind fun b v s w hb h => ?_
    exact h.push_alike (ha.add hb)
  | callExternal id => exact h.invoke_alike hdesc id
  | call id => exact ⟨rfl, h⟩
  | ret => exact ⟨rfl, h⟩

end Config.Represents

/-! ## Runs -/

namespace Machine

/-- The word machine with the code, the start scope, the capacity, the general registers and the host of a
machine, and with the given programs and words, ends its run with `result` in the state `w`. -/
def RunsOnWords (m : Machine σ) (externals : Array (WordScope σ)) (words : List Word)
    (result : Except Fault Unit) (w : WordState σ) : Prop :=
  WalksScope m.scopes.body (WordState.effect m.stack.capacity externals) m.start
    ⟨words, m.registers.general.get, m.host⟩ result w

/-- A machine whose callbacks use the stack for words alone, and whose stack holds words, runs as the word
machine does. Every run that ends has the word machine's result, words, general registers and host, and
the word machine ends no other runs. -/
theorem runs_refines_runsOnWords (m : Machine σ) (externals : Array (WordScope σ)) (words : List Word)
    (hexternals : m.scopes.DescribedBy m.stack.capacity externals)
    (hwords : m.stack.live = Word.layout words) :
    (∀ result final, m.Runs result final →
        ∃ w, m.RunsOnWords externals words result w ∧ final.config.Represents m.stack.capacity w ∧
          final.stack.live.length = 4 * w.words.length) ∧
      ∀ result w, m.RunsOnWords externals words result w →
        ∃ final, m.Runs result final ∧ final.config.Represents m.stack.capacity w := by
  have hstart : (m.record (.start m.start)).config.Represents m.stack.capacity
      ⟨words, m.registers.general.get, m.host⟩ := ⟨⟨rfl, hwords⟩, rfl, rfl⟩
  constructor
  · rintro result final ⟨depth, hrun⟩
    have hwalk := (walksScope_of_executeWithin depth m.start _ final result rfl hrun).1
    obtain ⟨w, hrun', hfinal⟩ := hwalk.simulate (fun op _ _ h => h.effect_alike hexternals op) hstart
    exact ⟨w, hrun', hfinal, hfinal.holds.length_live_eq⟩
  · -- the same simulation, read from words to bytes
    intro result w hwalk
    obtain ⟨s, hwalk', hs⟩ :=
      WalksScope.simulate (fun op _ _ h => (Config.Represents.effect_alike hexternals op h).symm) hwalk hstart
    obtain ⟨final, hrun, rfl⟩ := executes_of_walksScope (m.record (.start m.start)) hwalk'
    exact ⟨final, hrun, hs⟩

/-- A host function that adds one to the topmost word, and counts its calls. -/
def increment (calls : Nat) : WordProgram Nat :=
  .pop fun
    | .error fault => .done (.error fault) (calls + 1)
    | .ok value => .push (value + 1) fun answer => .done answer (calls + 1)

/-- A machine with room for two words and a half, which starts with the greatest signed integer. Its code
increments it, moves it to a register and then has nothing to add. -/
def counting : Machine Nat where
  stack := ⟨10, #[255, 255, 255, 127], 4, by decide, by decide⟩
  registers := .zero
  scopes :=
    ⟨#[⟨⟨0⟩, Operation.records [.callExternal ⟨0⟩, .setRegister (.general (Fin.last 7)), .add]⟩],
      #[⟨⟨0⟩, some fun (stack, calls) => (increment calls).run Stack.wordStack stack⟩]⟩
  start := ⟨0⟩
  host := 0
  trace := #[]

theorem counting_runs_on_words :
    ∃ final w, counting.Runs (.error (.stackUnderflow 4 0)) final ∧
      counting.RunsOnWords #[⟨⟨0⟩, some increment⟩] [2147483647] (.error (.stackUnderflow 4 0)) w ∧
      w.words = [] ∧ w.general 7 = -2147483648 ∧ w.host = 1 := by
  have hexternals : counting.scopes.DescribedBy counting.stack.capacity #[⟨⟨0⟩, some increment⟩]
    | 0 => .some ⟨rfl, rfl, by rintro _ ⟨⟩ _ ⟨⟩ stack host -; rfl⟩
    | _ + 1 => .none
  have hwords : counting.stack.live = Word.layout [2147483647] := by decide
  obtain ⟨final, hrun, hlive, hgeneral, hhost⟩ :
      ∃ final, run counting = ended (.error (.stackUnderflow 4 0)) final ∧ final.stack.live = [] ∧
        final.registers.general.get 7 = -2147483648 ∧ final.host = 1 :=
    ⟨_, rfl, rfl, rfl, rfl⟩
  have hruns := runs_of_run hrun
  obtain ⟨w, hrun', hfinal, hlength⟩ :=
    (runs_refines_runsOnWords counting _ _ hexternals hwords).1 _ final hruns
  refine ⟨final, w, hruns, hrun', ?_, ?_, ?_⟩
  · rw [hlive, List.length_nil] at hlength
    exact List.length_eq_zero_iff.mp (by omega)
  · exact (congrFun hfinal.general_eq 7).symm.trans hgeneral
  · exact hfinal.host_eq.symm.trans hhost

end Machine

end ScopeMachine
