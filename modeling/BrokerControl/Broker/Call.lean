import BrokerControl.Broker.State

/-!
# Broker calls

Each thing that can be asked of a broker is a `Call`, which determines the type of its answer.
`perform` is the broker in memory as a handler of calls.
-/

namespace BrokerControl.Broker

open Access (Grant)

inductive Call where
  | createExchange (vhost name : String)
  | getExchange (vhost name : String)
  | deleteExchange (vhost name : String)
  | listExchangeBindings (vhost name : String)
  | createQueue (vhost name : String)
  | deleteQueue (vhost name : String)
  | listQueueBindings (vhost name : String)
  | bindQueue (vhost exchange queue key : String)
  | unbindQueue (vhost exchange queue key : String)
  | getUser (name : String)
  | createUser (name password : String)
  | updateUserPassword (name password : String)
  | createVhost (name : String)
  | deleteVhost (name : String)
  | listVhosts
  | getUserPermissions (vhost user : String)
  | setUserPermissions (vhost user : String) (grant : Grant)
  | publish (vhost exchange key : String) (body : ByteArray)

namespace Call

abbrev Answer : Call → Type
  | .getExchange .. => Exchange
  | .listExchangeBindings .. => BindingsByQueue
  | .listQueueBindings .. | .listVhosts => List String
  | .getUser _ => UserEntry
  | .getUserPermissions .. => Grant
  | _ => Unit

def name : Call → String
  | .createExchange .. => "create_exchange"
  | .getExchange .. => "get_exchange"
  | .deleteExchange .. => "delete_exchange"
  | .listExchangeBindings .. => "list_exchange_bindings"
  | .createQueue .. => "create_queue"
  | .deleteQueue .. => "delete_queue"
  | .listQueueBindings .. => "list_queue_bindings"
  | .bindQueue .. => "bind_queue"
  | .unbindQueue .. => "unbind_queue"
  | .getUser _ => "get_user"
  | .createUser .. => "create_user"
  | .updateUserPassword .. => "update_user_password"
  | .createVhost _ => "create_vhost"
  | .deleteVhost _ => "delete_vhost"
  | .listVhosts => "list_vhosts"
  | .getUserPermissions .. => "get_user_permissions"
  | .setUserPermissions .. => "set_user_permissions"
  | .publish .. => "publish"

end Call

def perform : (c : Call) → Action c.Answer
  | .createExchange vhost name => createExchange vhost name
  | .getExchange vhost name => getExchange vhost name
  | .deleteExchange vhost name => deleteExchange vhost name
  | .listExchangeBindings vhost name => listExchangeBindings vhost name
  | .createQueue vhost name => createQueue vhost name
  | .deleteQueue vhost name => deleteQueue vhost name
  | .listQueueBindings vhost name => listQueueBindings vhost name
  | .bindQueue vhost exchange queue key => bindQueue vhost exchange queue key
  | .unbindQueue vhost exchange queue key => unbindQueue vhost exchange queue key
  | .getUser name => getUser name
  | .createUser name password => createUser name password
  | .updateUserPassword name password => updateUserPassword name password
  | .createVhost name => createVhost name
  | .deleteVhost name => deleteVhost name
  | .listVhosts => listVhosts
  | .getUserPermissions vhost user => getUserPermissions vhost user
  | .setUserPermissions vhost user grant => setUserPermissions vhost user grant
  | .publish vhost exchange key body => publish vhost exchange key body

/-- The answer to a call, and the state after it, whether the call failed or not. -/
def respond (b : Broker) (c : Call) : Except Error c.Answer × Broker := (perform c).run.run b

end BrokerControl.Broker
