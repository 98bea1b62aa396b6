import AuditDesk.Desk.Session

/-!
A whole session from its first look at the history until the user quits.
-/
namespace AuditDesk.Session

/-- Before each key what the workers have queued is applied and old notices go. A user who quits stops
the analysis that is still running; keys typed after that count for nothing. -/
def typeKeys (s : Session) : List KeyEvent → Session
  | [] => s
  | key :: rest =>
      let s := (s.wait 0).act fun d =>
        let d := d.drain.2
        { d with notices := d.notices.expire d.now }
      let s := s.act (·.press key)
      if s.desk.quit then s.act (·.cancelAnalysis.2) else typeKeys s rest

def sit (s : Session) (keys : List KeyEvent) : Session := (s.act Desk.refreshHistory).typeKeys keys

end AuditDesk.Session
