import OverlayConfig.Reconcile
/-!
The templates that come with the program, line by line.
-/
set_option autoImplicit false

namespace OverlayConfig

def textOfLines (lines : List String) : List Char :=
  lines.flatMap fun line => line.toList ++ ['\n']

def namespaceTemplate : List String := [
  "apiVersion: v1",
  "kind: Namespace",
  "metadata:",
  "  name: openshift-sdn",
  "  labels:",
  "    name: openshift-sdn",
  "    openshift.io/run-level: \"0\"",
  "  annotations:",
  "    openshift.io/node-selector: \"\"",
  "    openshift.io/description: \"OpenShift SDN components\""]

def sdnAccessTemplate : List String := [
  "apiVersion: rbac.authorization.k8s.io/v1",
  "kind: ClusterRole",
  "metadata:",
  "  name: openshift-sdn",
  "rules:",
  "- apiGroups: [\"\"]",
  "  resources: [\"pods\", \"namespaces\", \"endpoints\", \"services\", \"nodes\"]",
  "  verbs: [\"get\", \"list\", \"watch\"]",
  "- apiGroups: [\"network.openshift.io\"]",
  "  resources: [\"clusternetworks\", \"egressnetworkpolicies\", \"hostsubnets\", \"netnamespaces\"]",
  "  verbs: [\"get\", \"list\", \"watch\"]",
  "- apiGroups: [\"networking.k8s.io\"]",
  "  resources: [\"networkpolicies\"]",
  "  verbs: [\"get\", \"list\", \"watch\"]",
  "- apiGroups: [\"\"]",
  "  resources: [\"events\"]",
  "  verbs: [\"create\", \"patch\", \"update\"]",
  "---",
  "apiVersion: v1",
  "kind: ServiceAccount",
  "metadata:",
  "  name: sdn",
  "  namespace: openshift-sdn",
  "---",
  "apiVersion: rbac.authorization.k8s.io/v1",
  "kind: ClusterRoleBinding",
  "metadata:",
  "  name: openshift-sdn",
  "roleRef:",
  "  apiGroup: rbac.authorization.k8s.io",
  "  kind: ClusterRole",
  "  name: openshift-sdn",
  "subjects:",
  "- kind: ServiceAccount",
  "  name: sdn",
  "  namespace: openshift-sdn"]

def controllerAccessTemplate : List String := [
  "apiVersion: rbac.authorization.k8s.io/v1",
  "kind: ClusterRole",
  "metadata:",
  "  name: openshift-sdn-controller",
  "rules:",
  "- apiGroups: [\"network.openshift.io\"]",
  "  resources: [\"clusternetworks\", \"hostsubnets\", \"netnamespaces\"]",
  "  verbs: [\"create\", \"delete\", \"get\", \"list\", \"update\", \"watch\"]",
  "- apiGroups: [\"\"]",
  "  resources: [\"namespaces\", \"nodes\"]",
  "  verbs: [\"get\", \"list\", \"watch\"]",
  "- apiGroups: [\"\"]",
  "  resources: [\"nodes/status\"]",
  "  verbs: [\"patch\", \"update\"]",
  "- apiGroups: [\"\"]",
  "  resources: [\"events\"]",
  "  verbs: [\"create\", \"patch\", \"update\"]",
  "---",
  "apiVersion: v1",
  "kind: ServiceAccount",
  "metadata:",
  "  name: sdn-controller",
  "  namespace: openshift-sdn",
  "---",
  "apiVersion: rbac.authorization.k8s.io/v1",
  "kind: ClusterRoleBinding",
  "metadata:",
  "  name: openshift-sdn-controller",
  "roleRef:",
  "  apiGroup: rbac.authorization.k8s.io",
  "  kind: ClusterRole",
  "  name: openshift-sdn-controller",
  "subjects:",
  "- kind: ServiceAccount",
  "  name: sdn-controller",
  "  namespace: openshift-sdn"]

def configTemplate : List String := [
  "apiVersion: v1",
  "kind: ConfigMap",
  "metadata:",
  "  name: sdn-config",
  "  namespace: openshift-sdn",
  "data:",
  "  sdn-config.yaml: |-",
  "    \x7b\x7b node_config \x7d\x7d",
  "---",
  "apiVersion: v1",
  "kind: ConfigMap",
  "metadata:",
  "  name: sdn-controller-config",
  "  namespace: openshift-sdn",
  "data:",
  "  controller-config.yaml: |-",
  "    \x7b\x7b controller_config \x7d\x7d"]

def controllerTemplate : List String := [
  "apiVersion: apps/v1",
  "kind: DaemonSet",
  "metadata:",
  "  name: sdn-controller",
  "  namespace: openshift-sdn",
  "  annotations:",
  "    kubernetes.io/description: |",
  "      Allocates host subnets and network namespaces for the OpenShift SDN.",
  "spec:",
  "  selector:",
  "    matchLabels:",
  "      app: sdn-controller",
  "  updateStrategy:",
  "    type: RollingUpdate",
  "  template:",
  "    metadata:",
  "      labels:",
  "        app: sdn-controller",
  "    spec:",
  "      serviceAccountName: sdn-controller",
  "      hostNetwork: true",
  "      priorityClassName: system-cluster-critical",
  "      nodeSelector:",
  "        node-role.kubernetes.io/master: \"\"",
  "        beta.kubernetes.io/os: linux",
  "      tolerations:",
  "      - key: node-role.kubernetes.io/master",
  "        operator: Exists",
  "        effect: NoSchedule",
  "      - key: node.kubernetes.io/not-ready",
  "        operator: Exists",
  "        effect: NoSchedule",
  "      containers:",
  "      - name: sdn-controller",
  "        image: \"\x7b\x7b controller_image \x7d\x7d\"",
  "        command: [\"openshift-sdn-controller\", \"--config=/config/controller-config.yaml\"]",
  "        resources:",
  "          requests:",
  "            cpu: 10m",
  "            memory: 50Mi",
  "        volumeMounts:",
  "        - mountPath: /config",
  "          name: config",
  "          readOnly: true",
  "      volumes:",
  "      - name: config",
  "        configMap:",
  "          name: sdn-controller-config"]

def openvswitchTemplate : List String := [
  "\x7b% if install_ovs %\x7d",
  "apiVersion: apps/v1",
  "kind: DaemonSet",
  "metadata:",
  "  name: ovs",
  "  namespace: openshift-sdn",
  "  annotations:",
  "    kubernetes.io/description: |",
  "      Runs openvswitch on every node for the OpenShift SDN.",
  "spec:",
  "  selector:",
  "    matchLabels:",
  "      app: ovs",
  "  updateStrategy:",
  "    type: RollingUpdate",
  "  template:",
  "    metadata:",
  "      labels:",
  "        app: ovs",
  "        component: network",
  "    spec:",
  "      serviceAccountName: sdn",
  "      hostNetwork: true",
  "      hostPID: true",
  "      priorityClassName: system-node-critical",
  "      nodeSelector:",
  "        beta.kubernetes.io/os: linux",
  "      tolerations:",
  "      - operator: Exists",
  "      containers:",
  "      - name: openvswitch",
  "        image: \"\x7b\x7b node_image \x7d\x7d\"",
  "        command: [\"/usr/share/openvswitch/scripts/ovs-ctl\", \"start\", \"--system-id=random\", \"--no-monitor\"]",
  "        securityContext:",
  "          privileged: true",
  "        resources:",
  "          requests:",
  "            cpu: 100m",
  "            memory: 300Mi",
  "        volumeMounts:",
  "        - mountPath: /lib/modules",
  "          name: host-modules",
  "          readOnly: true",
  "        - mountPath: /run/openvswitch",
  "          name: host-run-ovs",
  "        - mountPath: /etc/openvswitch",
  "          name: host-config-openvswitch",
  "      volumes:",
  "      - name: host-modules",
  "        hostPath:",
  "          path: /lib/modules",
  "      - name: host-run-ovs",
  "        hostPath:",
  "          path: /run/openvswitch",
  "      - name: host-config-openvswitch",
  "        hostPath:",
  "          path: /etc/origin/openvswitch",
  "\x7b% endif %\x7d"]

def sdnTemplate : List String := [
  "apiVersion: apps/v1",
  "kind: DaemonSet",
  "metadata:",
  "  name: sdn",
  "  namespace: openshift-sdn",
  "  annotations:",
  "    kubernetes.io/description: |",
  "      Programs the VXLAN overlay and the service proxy on every node.",
  "spec:",
  "  selector:",
  "    matchLabels:",
  "      app: sdn",
  "  updateStrategy:",
  "    type: RollingUpdate",
  "  template:",
  "    metadata:",
  "      labels:",
  "        app: sdn",
  "        component: network",
  "    spec:",
  "      serviceAccountName: sdn",
  "      hostNetwork: true",
  "      hostPID: true",
  "      priorityClassName: system-node-critical",
  "      nodeSelector:",
  "        beta.kubernetes.io/os: linux",
  "      tolerations:",
  "      - operator: Exists",
  "      containers:",
  "      - name: sdn",
  "        image: \"\x7b\x7b node_image \x7d\x7d\"",
  "        command: [\"openshift-sdn\", \"--config=/config/sdn-config.yaml\"]",
  "        securityContext:",
  "          privileged: true",
  "        ports:",
  "        - name: metrics",
  "          containerPort: 9101",
  "          hostPort: 9101",
  "        resources:",
  "          requests:",
  "            cpu: 100m",
  "            memory: 200Mi",
  "        volumeMounts:",
  "        - mountPath: /config",
  "          name: config",
  "          readOnly: true",
  "        - mountPath: /run/openvswitch",
  "          name: host-run-ovs",
  "        - mountPath: /var/run/openshift-sdn",
  "          name: host-var-run-openshift-sdn",
  "        - mountPath: /etc/cni/net.d",
  "          name: host-cni-conf",
  "        - mountPath: /host/opt/cni/bin",
  "          name: host-cni-bin",
  "      volumes:",
  "      - name: config",
  "        configMap:",
  "          name: sdn-config",
  "      - name: host-run-ovs",
  "        hostPath:",
  "          path: /run/openvswitch",
  "      - name: host-var-run-openshift-sdn",
  "        hostPath:",
  "          path: /var/run/openshift-sdn",
  "      - name: host-cni-conf",
  "        hostPath:",
  "          path: /etc/cni/net.d",
  "      - name: host-cni-bin",
  "        hostPath:",
  "          path: /opt/cni/bin"]

def shippedTemplates : FileNode :=
  .directory [
    ("000-namespace.yaml", .text (textOfLines namespaceTemplate)),
    ("001-sdn-rbac.yaml", .text (textOfLines sdnAccessTemplate)),
    ("002-controller-rbac.yaml", .text (textOfLines controllerAccessTemplate)),
    ("003-config.yaml", .text (textOfLines configTemplate)),
    ("004-controller.yaml", .text (textOfLines controllerTemplate)),
    ("005-ovs.yaml", .text (textOfLines openvswitchTemplate)),
    ("006-sdn.yaml", .text (textOfLines sdnTemplate))]

def shippedManifests : FileNode :=
  .directory [("network", .directory [("openshift-sdn", shippedTemplates)])]

end OverlayConfig
