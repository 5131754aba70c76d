import ServiceStack.Machine.Shell.Start
import ServiceStack.Machine.Tool.About
import ServiceStack.Machine.Tool.Armor
import ServiceStack.Machine.Tool.Blocks
import ServiceStack.Machine.Tool.Bytes
import ServiceStack.Machine.Tool.Column.Cut
import ServiceStack.Machine.Tool.Column.Width
import ServiceStack.Machine.Tool.Compare
import ServiceStack.Machine.Tool.Date.Telling
import ServiceStack.Machine.Tool.Digest
import ServiceStack.Machine.Tool.Dump
import ServiceStack.Machine.Tool.Edit.Run
import ServiceStack.Machine.Tool.Expression
import ServiceStack.Machine.Tool.Facility
import ServiceStack.Machine.Tool.Factor
import ServiceStack.Machine.Tool.Copy
import ServiceStack.Machine.Tool.Filing.Moving
import ServiceStack.Machine.Tool.Finding.Walk
import ServiceStack.Machine.Tool.Launch.Environment
import ServiceStack.Machine.Tool.Launch.Limit
import ServiceStack.Machine.Tool.Launch.Rank
import ServiceStack.Machine.Tool.Launch.Rows
import ServiceStack.Machine.Tool.Launch.Setting
import ServiceStack.Machine.Tool.Listing
import ServiceStack.Machine.Tool.Order.Pairs
import ServiceStack.Machine.Tool.Order.Runs
import ServiceStack.Machine.Tool.Order.Shuffle
import ServiceStack.Machine.Tool.Order.Sorting
import ServiceStack.Machine.Tool.Paragraph
import ServiceStack.Machine.Tool.Part
import ServiceStack.Machine.Tool.PathName
import ServiceStack.Machine.Tool.Record.Start
import ServiceStack.Machine.Tool.Row
import ServiceStack.Machine.Tool.Scale
import ServiceStack.Machine.Tool.Search
import ServiceStack.Machine.Tool.Sending
import ServiceStack.Machine.Tool.Status
import ServiceStack.Machine.Tool.Tally

/-!
What each program does. Some run another one; the shell runs whatever its script says.
-/

namespace ServiceStack

namespace Tool

/-- Writes a line without end, as long as somebody takes it. -/
def repeatLine (self : String) (block : Raw) : Nat → Act Nat
  | 0 => return 0
  | n + 1 => do
    match ← Act.write 1 block with
    | .ok () => repeatLine self block n
    | .error e =>
      Notice.warn (Notice.faultLine self.toList "standard output".toList e)
      return 1

def doYes (self : String) (args : List Raw) : Act Nat :=
  match Letter.split {} args with
  | .error f => (f.report self 1).act self 1
  | .ok (_, words) =>
    let line := (if words = [] then ['y'] else [' '].intercalate words) ++ ['\n']
    repeatLine self (List.replicate (Act.blockSize / 8 / line.length + 1) line).flatten Act.patience

/-- What a program does that was given a process. -/
def act (perform : Tool → Call → Act Nat) (t : Tool) (c : Call) : Act Nat := do
  let self := String.ofList c.program
  let report := fun (r : Notice) (failed : Nat) => r.act self failed
  match t with
  | constant code => return code
  | echo => report (.say (Echo.program c.args) 0) 1
  | printf => report (Printf.runProgram self c.args) 1
  | sleep => Duration.sleep self c.args
  | yes => doYes self c.args
  | test bracket => report (Condition.program (← Act.look) self bracket c.args) 2
  | seq => Row.seq self c.args
  | factor => Factor.factor self c.args
  | expr => report (Expression.expr self c.args) 3
  | basename => report (PathName.basename self c.args) 1
  | dirname => report (PathName.dirname self c.args) 1
  | readlink => report (PathName.readlink self (← Act.look) c.args) 1
  | realpath => report (PathName.realpath self (← Act.look) c.args) 1
  | pwd => report (PathName.pwd self (← Act.look) c.args) 1
  | date => Date.date self c.args
  | digest kind => Digest.digestOf kind self c.args
  | cksum => Digest.cksum self c.args
  | base32 => Armor.one .base32 self c.args
  | base64 => Armor.one .base64 self c.args
  | basenc => Armor.any self c.args
  | kill => Sending.kill self c.args
  | cmp => Compare.cmp self c.args
  | diff => Compare.diff self c.args
  | numfmt => Scale.numfmt self c.args
  | dd => Blocks.dd self c.args
  | find => Finding.find perform c
  | fmt => Paragraph.fmt self c.args
  | shuf => Order.shuf self c.args
  | which => report (Facility.which (← Act.look) c) 1
  | getconf => report (Facility.getconf self c.args) 1
  | nproc => report (Facility.nproc self c.args) 1
  | pathchk => report (Facility.pathchk self (← Act.look) c.args) 1
  | mountpoint => report (Facility.mountpoint self (← Act.look) c.args) 1
  | ls letters => report (Listing.ls letters self (← Act.look) c.args) 2
  | mkdir => Filing.mkdir self c.args
  | touch => Filing.touch self c.args
  | truncate => Filing.truncate self c.args
  | mktemp => Filing.mktemp self c.environment c.args
  | chmod => Filing.chmod self c.args
  | ln => Filing.ln self c.args
  | link => Filing.link self c.args
  | rm => Filing.rm self c.args
  | rmdir => Filing.rmdir self c.args
  | unlink => Filing.unlink self c.args
  | cp => Filing.cp self c.args
  | mv => Filing.mv self c.args
  | od => Dump.od self c.args
  | sum => Digest.sum self c.args
  | stat => report (Status.stat self (← Act.look) c.args) 1
  | id => report (About.identity self c.args) 1
  | whoami => report (About.whoami self c.args) 1
  | logname => report (About.logname self c.args) 1
  | users => report (About.users self c.args) 1
  | groups => report (About.groups self c.args) 1
  | uname => report (About.system self c.args) 1
  | tty => report (About.tty self c.args) 3
  | told text => report (About.single text self c.args) 1
  | printenv => report (Launch.printenv c) 2
  | cat => Copy.cat self c.args
  | head => Part.head self c.args
  | tail => Part.tail self c.args
  | wc => Tally.wc self c.args
  | tac => Copy.tac self c.args
  | rev => Copy.rev self c.args
  | tee => Copy.tee self c.args
  | tr => Bytes.tr self c.args
  | sort => Order.sort self c.args
  | uniq => Order.uniq self c.args
  | comm => Order.runComm self c.args
  | join => Order.runJoin self c.args
  | tsort => Order.tsort self c.args
  | cut => Column.cut self c.args
  | paste => Column.paste self c.args
  | fold => Column.fold self c.args
  | expand => Column.expand self c.args
  | unexpand => Column.unexpand self c.args
  | nl => Column.nl self c.args
  | grep => Search.grep self c.args
  | sed => Edit.sed self c.args
  | awk => Record.awk perform c
  | env => Launch.env perform c
  | nice => Launch.nice perform c
  | nohup => Launch.nohup perform c
  | stdbuf => Launch.stdbuf perform c
  | setsid => Launch.setsid perform c
  | timeout => Launch.timeout perform c
  | ionice => Launch.ionice perform c
  | chrt => Launch.chrt perform c
  | taskset => Launch.taskset perform c
  | choom => Launch.choom perform c
  | setpriv => Launch.setpriv perform c
  | unshare => Launch.unshare perform c
  | flock => Launch.flock perform c
  | setarch named => Launch.setarch perform c named
  | xargs => Launch.xargs perform c
  | shell _ => return 0

end Tool

namespace Shell

/-- What shells and programs do that run within each other, up to some depth. -/
def hooks : Nat → Hooks Item
  | 0 => ⟨fun _ _ => throw .finish, fun _ _ => throw .finish, fun _ _ => throw .finish,
      fun _ _ => return 1⟩
  | n + 1 => ⟨fun flags c => execute (hooks n) flags c,
      fun flags text => runScript (hooks n) flags text,
      fun splits w => expandParts (hooks n) splits w,
      fun t c => match t with
        | .shell rich => start (hooks n) rich c
        | t => t.act (hooks n).perform c⟩

/-- More than anything runs within each other. -/
def depth : Nat := 1000000000

end Shell

/-- What a program does when it is started. -/
def Tool.course (t : Tool) (c : Call) : Course := ((Shell.hooks Shell.depth).perform t c).course

end ServiceStack
